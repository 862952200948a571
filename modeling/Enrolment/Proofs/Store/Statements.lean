import Enrolment.Store.Statement

set_option autoImplicit false

namespace Enrolment

namespace Table

theorem contains_iff (table : Table) (address : String) :
    table.contains address = true ↔ address ∈ table.rows.map Row.address := by
  simp [contains, List.any_eq_true]

end Table

@[simp] theorem Row.ofParticipant_address (cipher : EmailCipher) (nonce : Bytes) (id : Nat)
    (participant : Participant) :
    (Row.ofParticipant cipher nonce id participant).address = participant.address := rfl

namespace Store

def addresses (store : Store) : List String := store.rows.map Row.address

theorem table_of_reach {store : Store} {statement : Statement} {table : Table}
    (needs : statement.needsTable = true) (reached : store.reach statement = .ok table) :
    store.table = some table := by
  simp only [reach] at reached
  split at reached
  · cases reached
  split at reached
  · cases reached
  cases stored : store.table with
  | some found => simpa [stored] using reached
  | none => simp [stored] at reached

theorem addresses_of_table {store : Store} {table : Table} (stored : store.table = some table) :
    store.addresses = table.rows.map Row.address := by
  simp [addresses, rows, stored]

theorem mem_addresses_of_lookUp {store : Store} {address : String}
    (found : (store.lookUp address).1 = .ok true) : address ∈ store.addresses := by
  simp only [lookUp, contains] at found
  cases reached : store.reach .exist with
  | error fault => simp [reached, bind, Except.bind] at found
  | ok table =>
    simp only [reached, bind, Except.bind, pure, Except.pure, Except.ok.injEq,
      Bool.and_eq_true] at found
    rw [addresses_of_table (table_of_reach rfl reached)]
    exact (table.contains_iff address).mp found.1

structure Writes (store : Store) (nonce : Bytes) (participant : Participant) (id : Nat)
    (after : Store) : Prop where
  fresh : participant.address ∉ store.addresses
  cipher : after.cipher = store.cipher
  rows : after.rows = store.rows ++ [Row.ofParticipant store.cipher nonce id participant]

theorem persist_cases (store : Store) (nonce : Bytes) (participant : Participant) :
    (∃ id, (store.persist nonce participant).1 = .ok () ∧
        store.Writes nonce participant id (store.persist nonce participant).2) ∨
      ∃ error, store.persist nonce participant = (.error error, store) := by
  -- Either the table is out of reach, or it has the address, or the row goes to its end.
  cases reached : store.reach .persist with
  | error fault => exact .inr ⟨fault, by simp [persist, reached, bind, Except.bind]⟩
  | ok table =>
    have stored := table_of_reach rfl reached
    cases taken : table.contains participant.address with
    | true =>
      refine .inr ⟨.duplicate participant.address, ?_⟩
      simp [persist, reached, bind, Except.bind, Table.insert, taken]
    | false =>
      refine .inl ⟨table.nextId, ?_, ?_, ?_, ?_⟩
      · simp [persist, reached, bind, Except.bind, Table.insert, taken]
      · rw [addresses_of_table stored, ← table.contains_iff, taken]
        decide
      · simp [persist, reached, bind, Except.bind, Table.insert, taken]
      · simp [persist, reached, bind, Except.bind, Table.insert, taken, rows, stored]

theorem persist_duplicate {store : Store} {table : Table} (nonce : Bytes)
    {participant : Participant} (reached : store.reach .persist = .ok table)
    (taken : participant.address ∈ store.addresses) :
    store.persist nonce participant = (.error (.duplicate participant.address), store) := by
  rw [addresses_of_table (table_of_reach rfl reached), ← table.contains_iff] at taken
  simp [persist, reached, bind, Except.bind, Table.insert, taken]

structure Serves (store : Store) (table : Table) : Prop where
  online : store.online = true
  failing : store.failing = []
  hidden : store.hidden = []
  stored : store.table = some table

variable {store : Store} {table : Table}

theorem Serves.reach (serves : store.Serves table) (statement : Statement) :
    store.reach statement = .ok table := by
  simp [Store.reach, serves.online, serves.failing, serves.stored]

theorem Serves.lookUp (serves : store.Serves table) (address : String) :
    store.lookUp address =
      (.ok (table.contains address), { store with lookups := store.lookups + 1 }) := by
  simp [Store.lookUp, contains, serves.reach, serves.hidden, bind, Except.bind, pure, Except.pure]

theorem Serves.persist (serves : store.Serves table) (nonce : Bytes) (participant : Participant)
    (free : table.contains participant.address = false) :
    (store.persist nonce participant).1 = .ok () := by
  simp [Store.persist, serves.reach, bind, Except.bind, Table.insert, free]

theorem Serves.findPage (serves : store.Serves table) (offset limit : Option Nat) :
    store.findPage offset limit = Page.bounds table.rows.length offset limit := by
  simp [Store.findPage, serves.reach, bind, Except.bind]

theorem Serves.loadPage (serves : store.Serves table) (page : Page) :
    store.loadPage page = Table.openRows store.cipher (page.cut table.rows) := by
  simp [Store.loadPage, serves.reach, bind, Except.bind]

theorem Serves.looked (serves : store.Serves table) (lookups : Nat) :
    { store with lookups }.Serves table :=
  ⟨serves.online, serves.failing, serves.hidden, serves.stored⟩

end Store

end Enrolment
