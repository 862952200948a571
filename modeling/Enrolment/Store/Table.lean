import Enrolment.Cipher.EmailCipher
import Enrolment.Failure
import Enrolment.Participant

set_option autoImplicit false

namespace Enrolment

structure Row where
  id : Nat
  address : String
  sealedEmail : String
  uuid : Uuid
  activatedAt : Instant
  sponsor : String

-- The last whole microsecond.
def Instant.toMicros (instant : Instant) : Instant :=
  Instant.ofNanos (instant.seconds * 1000000000 + (instant.nanos / 1000 * 1000 : Nat))

namespace Row

def ofParticipant (cipher : EmailCipher) (nonce : Bytes) (id : Nat) (participant : Participant) :
    Row where
  id := id
  address := participant.address
  sealedEmail := cipher.sealed nonce participant.address participant.email
  uuid := participant.uuid
  activatedAt := participant.activatedAt.toMicros
  sponsor := participant.sponsor

def opened (cipher : EmailCipher) (row : Row) : Except EmailCipher.Fault Participant := do
  let email ← cipher.opened row.address row.sealedEmail
  return ⟨row.address, email, row.uuid, row.activatedAt, row.sponsor⟩

end Row

structure Table where
  rows : List Row
  nextId : Nat
  increasing : (rows.map Row.id).Pairwise (· < ·) := by decide
  drawn : ∀ row ∈ rows, row.id < nextId := by decide

namespace Table

def empty : Table where
  rows := []
  nextId := 1
  increasing := .nil
  drawn _ member := absurd member List.not_mem_nil

def contains (table : Table) (address : String) : Bool :=
  table.rows.any fun row => row.address == address

-- Draws ids that no row gets.
def waste (table : Table) (ids : Nat) : Table :=
  { table with
    nextId := table.nextId + ids
    drawn := fun row member => Nat.lt_add_right ids (table.drawn row member) }

def add (table : Table) (cipher : EmailCipher) (nonce : Bytes) (participant : Participant) :
    Table where
  rows := table.rows ++ [Row.ofParticipant cipher nonce table.nextId participant]
  nextId := table.nextId + 1
  increasing := by
    rw [List.map_append, List.pairwise_append]
    refine ⟨table.increasing, List.pairwise_singleton _ _, fun id before last latest => ?_⟩
    obtain ⟨row, member, rfl⟩ := List.mem_map.mp before
    obtain rfl := List.mem_singleton.mp latest
    exact table.drawn row member
  drawn := by
    intro row member
    rcases List.mem_append.mp member with before | new
    · exact Nat.lt_succ_of_lt (table.drawn row before)
    · obtain rfl := List.mem_singleton.mp new
      exact Nat.lt_succ_self _

@[simp] theorem rows_add (table : Table) (cipher : EmailCipher) (nonce : Bytes)
    (participant : Participant) :
    (table.add cipher nonce participant).rows =
      table.rows ++ [Row.ofParticipant cipher nonce table.nextId participant] := rfl

def insert (table : Table) (cipher : EmailCipher) (nonce : Bytes) (participant : Participant) :
    Except StoreError Table :=
  if table.contains participant.address then .error (.duplicate participant.address)
  else .ok (table.add cipher nonce participant)

def rowsById (table : Table) : List Row := table.rows.mergeSort fun row later => row.id ≤ later.id

@[simp] theorem rowsById_eq (table : Table) : table.rowsById = table.rows := by
  refine List.mergeSort_of_pairwise ((List.pairwise_map.mp table.increasing).imp fun less => ?_)
  exact decide_eq_true (Nat.le_of_lt less)

def openRows (cipher : EmailCipher) (rows : List Row) : Except StoreError (List Participant) :=
  rows.mapM fun row =>
    match row.opened cipher with
    | .ok participant => .ok participant
    | .error fault => .error (.backend (.text fault.message))

def reseal (table : Table) (sealedEmail : Nat → Row → String) : Table where
  rows := table.rows.mapIdx fun position row =>
    { row with sealedEmail := sealedEmail position row }
  nextId := table.nextId
  increasing := by
    have same : table.rows.map Row.id = (table.rows.mapIdx fun position row =>
        { row with sealedEmail := sealedEmail position row }).map Row.id :=
      List.ext_getElem (by simp) fun position _ _ => by
        simp only [List.getElem_map, List.getElem_mapIdx]
    exact same ▸ table.increasing
  drawn row member := by
    obtain ⟨position, within, rfl⟩ := List.mem_mapIdx.mp member
    exact table.drawn table.rows[position] (List.getElem_mem within)

def overwrite (table : Table) (position : Nat) (sealedEmail : String) : Table :=
  table.reseal fun place row => if place = position then sealedEmail else row.sealedEmail

end Table

end Enrolment
