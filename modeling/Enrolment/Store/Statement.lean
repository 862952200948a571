import Enrolment.Store.Paging
import Enrolment.Store.Table

set_option autoImplicit false

namespace Enrolment

inductive Statement
  | exist
  | persist
  | count
  | load
  | ping
  | migrate
  deriving Repr, DecidableEq

namespace Statement

def all : List Statement := [exist, persist, count, load, ping, migrate]

def name : Statement → String
  | exist => "exists"
  | persist => "persist"
  | count => "list"
  | load => "rows"
  | ping => "ping"
  | migrate => "migrate"

def ofName? (name : String) : Option Statement := all.find? fun statement => statement.name == name

def needsTable : Statement → Bool
  | ping | migrate => false
  | _ => true

end Statement

structure Store where
  cipher : EmailCipher
  table : Option Table := some .empty
  failing : List Statement := []
  -- Why they fail, which can be any fault of a collaborator.
  causes : Statement → Cause := fun statement => .text (statement.name ++ " failed")
  -- Addresses whose rows a lookup does not see.
  hidden : List String := []
  lookups : Nat := 0
  -- Whether there is anything to connect to.
  online : Bool := true

namespace Store

def rows (store : Store) : List Row := (store.table.map Table.rows).getD []

def reach (store : Store) (statement : Statement) : Except StoreError Table :=
  if !store.online then
    .error (.backend (.text "Failed to connect to the database: Timed out in bb8"))
  else if store.failing.contains statement then
    .error (.backend (store.causes statement))
  else
    match store.table with
    | some table => .ok table
    | none =>
      if statement.needsTable then
        .error (.backend (.text "relation \"participants\" does not exist"))
      else .ok .empty

def contains (store : Store) (address : String) : Except StoreError Bool := do
  let table ← store.reach .exist
  return table.contains address && !store.hidden.contains address

def lookUp (store : Store) (address : String) : Except StoreError Bool × Store :=
  (store.contains address, { store with lookups := store.lookups + 1 })

def persist (store : Store) (nonce : Bytes) (participant : Participant) :
    Except StoreError Unit × Store :=
  let inserted := do (← store.reach .persist).insert store.cipher nonce participant
  match inserted with
  | .ok table => (.ok (), { store with table := some table })
  | .error error => (.error error, store)

def findPage (store : Store) (offset limit : Option Nat) : Except StoreError Page := do
  let table ← store.reach .count
  Page.bounds table.rows.length offset limit

def loadPage (store : Store) (page : Page) : Except StoreError (List Participant) := do
  let table ← store.reach .load
  Table.openRows store.cipher (page.cut table.rowsById)

def list (store : Store) (offset limit : Option Nat) : Except StoreError (List Participant) := do
  store.loadPage (← store.findPage offset limit)

def ping (store : Store) : Except StoreError Unit := do
  let _ ← store.reach .ping

end Store

end Enrolment
