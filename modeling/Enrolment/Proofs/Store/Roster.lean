import Enrolment.Proofs.Cipher.Opening
import Enrolment.Proofs.Store.Statements

set_option autoImplicit false

namespace Enrolment

namespace Roster

inductive Operation
  | persist (nonce : Nonce) (participant : Participant)
  | exist (address : String)
  | list (offset limit : Option Nat)
  -- Ids that are drawn for rows that are never written.
  | waste (ids : Nat)

inductive Answer
  | persisted (result : Except StoreError Unit)
  | existing (result : Except StoreError Bool)
  | listed (result : Except StoreError (List Participant))
  | silence

def answerAll {State : Type} (answer : State → Operation → Answer × State) :
    State → List Operation → List Answer × State
  | state, [] => ([], state)
  | state, operation :: operations =>
    let (first, next) := answer state operation
    let (others, last) := answerAll answer next operations
    (first :: others, last)

def persist (roster : List Participant) (participant : Participant) :
    Except StoreError Unit × List Participant :=
  if participant.address ∈ roster.map Participant.address then
    (.error (.duplicate participant.address), roster)
  else
    (.ok (), roster ++ [{ participant with activatedAt := participant.activatedAt.toMicros }])

def list (roster : List Participant) (offset limit : Option Nat) :
    Except StoreError (List Participant) :=
  if roster.length < offset.getD 0 ∨ limit = some 0 then
    .error (.outOfRange (offset.getD 0) limit roster.length)
  else .ok ((roster.drop (offset.getD 0)).take (limit.getD roster.length))

def answer (roster : List Participant) : Operation → Answer × List Participant
  | .persist _ participant =>
    let (stored, after) := persist roster participant
    (.persisted stored, after)
  | .exist address => (.existing (.ok (address ∈ roster.map Participant.address)), roster)
  | .list offset limit => (.listed (list roster offset limit), roster)
  | .waste _ => (.silence, roster)

theorem mem_persist (roster : List Participant) (participant : Participant) (address : String) :
    address ∈ (persist roster participant).2.map Participant.address ↔
      address ∈ roster.map Participant.address ∨ address = participant.address := by
  unfold persist
  split
  next taken =>
    constructor
    · exact .inl
    · rintro (stored | rfl)
      · exact stored
      · exact taken
  next free => simp only [List.map_append, List.mem_append, List.map_cons, List.map_nil,
    List.mem_singleton]

theorem mem_answerAll (roster : List Participant) (operations : List Operation) (address : String) :
    address ∈ (answerAll answer roster operations).2.map Participant.address ↔
      address ∈ roster.map Participant.address ∨
        ∃ nonce participant, .persist nonce participant ∈ operations ∧
          participant.address = address := by
  induction operations generalizing roster with
  | nil => simp [answerAll]
  | cons operation operations ih =>
    simp only [answerAll, ih, List.mem_cons]
    cases operation with
    | exist | list | waste => simp [answer]
    | persist nonce participant =>
      simp only [answer, mem_persist, Operation.persist.injEq]
      constructor
      · rintro ((stored | rfl) | ⟨other, later, asked, rfl⟩)
        · exact .inl stored
        · exact .inr ⟨nonce, participant, .inl ⟨rfl, rfl⟩, rfl⟩
        · exact .inr ⟨other, later, .inr asked, rfl⟩
      · rintro (stored | ⟨other, later, ⟨-, rfl⟩ | asked, rfl⟩)
        · exact .inl (.inl stored)
        · exact .inl (.inr rfl)
        · exact .inr ⟨other, later, asked, rfl⟩

end Roster

namespace Page

variable {size : Nat} {offset limit : Option Nat}

theorem bounds_cases (size : Nat) (offset limit : Option Nat) :
    ((size < offset.getD 0 ∨ limit = some 0) ∧
        bounds size offset limit = .error (.outOfRange (offset.getD 0) limit size)) ∨
      (offset.getD 0 ≤ size ∧ limit ≠ some 0 ∧
        bounds size offset limit =
          .ok ⟨offset.getD 0, min (limit.getD size) (size - offset.getD 0)⟩) := by
  by_cases outside : size < offset.getD 0 ∨ limit = some 0
  · exact .inl ⟨outside, by simp [bounds, outside]⟩
  · have inside : offset.getD 0 ≤ size ∧ limit ≠ some 0 := by
      simpa only [not_or, Nat.not_lt] using outside
    refine .inr ⟨inside.1, inside.2, ?_⟩
    rw [bounds, if_neg (by simpa using inside)]

theorem stop_le {page : Page} (found : bounds size offset limit = .ok page) :
    page.stop ≤ size := by
  rcases bounds_cases size offset limit with ⟨-, outside⟩ | ⟨within, -, inside⟩
  · cases outside.symm.trans found
  · cases inside.symm.trans found
    have short := Nat.min_le_right (limit.getD size) (size - offset.getD 0)
    simp only [stop]
    omega

theorem cut_eq {α : Type} (entries : List α) (start size : Nat) :
    cut ⟨start, min size (entries.length - start)⟩ entries = (entries.drop start).take size := by
  simp only [cut, List.take_eq_take_iff, List.length_drop]
  omega

end Page

theorem Row.opened_cases (row : Row) (cipher : EmailCipher) :
    (∃ participant, row.opened cipher = .ok participant) ∨
      row.opened cipher = .error .unopened := by
  simp only [opened, EmailCipher.opened]
  split
  · exact .inl ⟨_, rfl⟩
  · exact .inr rfl

theorem Row.address_of_opened (row : Row) {cipher : EmailCipher} {participant : Participant}
    (opened : row.opened cipher = .ok participant) : row.address = participant.address := by
  unfold Row.opened at opened
  cases found : cipher.opened row.address row.sealedEmail with
  | error fault => simp [found, bind, Except.bind] at opened
  | ok email =>
    simp only [found, bind, Except.bind, pure, Except.pure, Except.ok.injEq] at opened
    rw [← opened]

theorem Row.opened_ofParticipant (cipher : EmailCipher) (nonce : Nonce) (id : Nat)
    (participant : Participant) :
    (Row.ofParticipant cipher nonce.bytes id participant).opened cipher =
      .ok { participant with activatedAt := participant.activatedAt.toMicros } := by
  have email := cipher.opened_sealed (Nat.le_of_eq nonce.size.symm) participant.address
    participant.email
  simp only [Row.opened, Row.ofParticipant, email]
  rfl

namespace Table

def unopened : StoreError := .backend (.text EmailCipher.Fault.unopened.message)

variable {cipher : EmailCipher}

theorem openRows_cons (cipher : EmailCipher) (row : Row) (rows : List Row) :
    openRows cipher (row :: rows) =
      match row.opened cipher with
      | .ok participant => (openRows cipher rows).map (participant :: ·)
      | .error fault => .error (.backend (.text fault.message)) := by
  rw [openRows, List.mapM_cons]
  cases row.opened cipher with
  | ok participant =>
    show (do let others ← openRows cipher rows; pure (participant :: others)) = _
    cases openRows cipher rows <;> rfl
  | error fault => rfl

theorem openRows_ok_iff (rows : List Row) (participants : List Participant) :
    openRows cipher rows = .ok participants ↔
      rows.map (Row.opened cipher) = participants.map .ok := by
  induction rows generalizing participants with
  | nil => cases participants <;> simp [openRows, pure, Except.pure]
  | cons row rows ih =>
    rw [openRows_cons, List.map_cons]
    cases row.opened cipher with
    | error fault => cases participants <;> simp
    | ok first =>
      -- The row opens, so that it is left to its followers.
      cases participants with
      | nil => cases openRows cipher rows <;> simp [Except.map]
      | cons participant participants =>
        rw [List.map_cons, List.cons.injEq, ← ih participants]
        cases openRows cipher rows <;> simp [Except.map]

theorem openRows_error_iff (rows : List Row) :
    openRows cipher rows = .error unopened ↔
      ∃ row ∈ rows, row.opened cipher = .error .unopened := by
  induction rows with
  | nil => simp [openRows, pure, Except.pure]
  | cons row rows ih =>
    simp only [openRows_cons, List.mem_cons, exists_eq_or_imp, ← ih]
    rcases row.opened_cases cipher with ⟨participant, opened⟩ | opened
    · rw [opened]
      cases openRows cipher rows <;> simp [Except.map]
    · simp [opened, unopened]

theorem addresses_of_opened {rows : List Row} {participants : List Participant}
    (opened : rows.map (Row.opened cipher) = participants.map .ok) :
    rows.map Row.address = participants.map Participant.address := by
  induction rows generalizing participants with
  | nil =>
    cases participants with
    | nil => rfl
    | cons => cases opened
  | cons row rows ih =>
    cases participants with
    | nil => cases opened
    | cons participant participants =>
      obtain ⟨first, others⟩ := List.cons_eq_cons.mp opened
      rw [List.map_cons, List.map_cons, ih others, row.address_of_opened first]

structure Holds (table : Table) (cipher : EmailCipher) (roster : List Participant) : Prop where
  opened : table.rows.map (Row.opened cipher) = roster.map .ok
  sealed : ∀ row ∈ table.rows, ∃ (nonce : Nonce) (participant : Participant),
    row = Row.ofParticipant cipher nonce.bytes row.id participant

variable {table : Table} {roster : List Participant}

theorem Holds.length (holds : table.Holds cipher roster) : table.rows.length = roster.length := by
  simpa using congrArg List.length holds.opened

theorem Holds.contains (holds : table.Holds cipher roster) (address : String) :
    table.contains address = decide (address ∈ roster.map Participant.address) := by
  rw [← addresses_of_opened holds.opened, Bool.eq_iff_iff, table.contains_iff, decide_eq_true_iff]

theorem Holds.add (holds : table.Holds cipher roster) (nonce : Nonce)
    (participant : Participant) :
    (table.add cipher nonce.bytes participant).Holds cipher
      (roster ++ [{ participant with activatedAt := participant.activatedAt.toMicros }]) where
  opened := by
    rw [Table.add, List.map_append, List.map_append, holds.opened, List.map_singleton,
      List.map_singleton, Row.opened_ofParticipant]
  sealed := by
    intro row member
    rcases List.mem_append.mp member with before | new
    · exact holds.sealed row before
    · obtain rfl := List.mem_singleton.mp new
      exact ⟨nonce, participant, rfl⟩

end Table

namespace Store

open Roster (Operation answerAll)

def answer (store : Store) : Operation → Roster.Answer × Store
  | .persist nonce participant =>
    let (stored, after) := store.persist nonce.bytes participant
    (.persisted stored, after)
  | .exist address =>
    let (found, after) := store.lookUp address
    (.existing found, after)
  | .list offset limit => (.listed (store.list offset limit), store)
  | .waste ids =>
    (.silence, { store with table := store.table.map (Table.waste · ids) })

theorem Serves.list_cases {store : Store} {table : Table} (serves : store.Serves table)
    (offset limit : Option Nat) :
    ((table.rows.length < offset.getD 0 ∨ limit = some 0) ∧
        store.list offset limit =
          .error (.outOfRange (offset.getD 0) limit table.rows.length)) ∨
      (offset.getD 0 ≤ table.rows.length ∧ limit ≠ some 0 ∧
        store.list offset limit = Table.openRows store.cipher
          ((table.rows.drop (offset.getD 0)).take (limit.getD table.rows.length))) := by
  have listed : store.list offset limit =
      (Page.bounds table.rows.length offset limit).bind fun page =>
        Table.openRows store.cipher (page.cut table.rows) := by
    simp [list, serves.findPage, serves.loadPage, bind]
  rcases Page.bounds_cases table.rows.length offset limit with ⟨outside, found⟩ |
    ⟨within, several, found⟩
  · exact .inl ⟨outside, by rw [listed, found]; rfl⟩
  · refine .inr ⟨within, several, ?_⟩
    rw [listed, found, Except.bind, Page.cut_eq]

structure Mirrors (store : Store) (cipher : EmailCipher) (roster : List Participant) : Prop where
  keyed : store.cipher = cipher
  held : ∃ table, store.Serves table ∧ table.Holds cipher roster

variable {store : Store} {cipher : EmailCipher} {roster : List Participant}

theorem Mirrors.persist (mirrors : store.Mirrors cipher roster) (nonce : Nonce)
    (participant : Participant) :
    (store.persist nonce.bytes participant).1 = (Roster.persist roster participant).1 ∧
      (store.persist nonce.bytes participant).2.Mirrors cipher
        (Roster.persist roster participant).2 := by
  obtain ⟨rfl, table, serves, holds⟩ := mirrors
  have known := holds.contains participant.address
  unfold Roster.persist
  split
  next taken =>
    rw [decide_eq_true taken] at known
    simp only [Store.persist, serves.reach, bind, Except.bind, Table.insert, known, if_true]
    exact ⟨trivial, rfl, table, serves, holds⟩
  next free =>
    rw [decide_eq_false free] at known
    simp only [Store.persist, serves.reach, bind, Except.bind, Table.insert, known]
    exact ⟨rfl, rfl, _, ⟨serves.online, serves.failing, serves.hidden, rfl⟩,
      holds.add nonce participant⟩

theorem Mirrors.list (mirrors : store.Mirrors cipher roster) (offset limit : Option Nat) :
    store.list offset limit = Roster.list roster offset limit := by
  obtain ⟨rfl, table, serves, holds⟩ := mirrors
  have size := holds.length
  unfold Roster.list
  rcases serves.list_cases offset limit with ⟨outside, listed⟩ | ⟨within, several, listed⟩
  · rw [listed, size, if_pos (size ▸ outside)]
  · rw [listed, size, if_neg (by simp [several]; omega), Table.openRows_ok_iff, List.map_take,
      List.map_drop, holds.opened, List.map_take, List.map_drop]

theorem Mirrors.stop_le (mirrors : store.Mirrors cipher roster) {offset limit : Option Nat}
    {page : Page} (found : store.findPage offset limit = .ok page) :
    page.stop ≤ roster.length := by
  obtain ⟨keyed, table, serves, holds⟩ := mirrors
  rw [serves.findPage] at found
  exact holds.length ▸ Page.stop_le found

theorem Mirrors.answer (mirrors : store.Mirrors cipher roster) (operation : Operation) :
    (store.answer operation).1 = (Roster.answer roster operation).1 ∧
      (store.answer operation).2.Mirrors cipher (Roster.answer roster operation).2 := by
  cases operation with
  | persist nonce participant =>
    obtain ⟨stored, after⟩ := mirrors.persist nonce participant
    exact ⟨congrArg Roster.Answer.persisted stored, after⟩
  | list offset limit => exact ⟨congrArg Roster.Answer.listed (mirrors.list offset limit), mirrors⟩
  | exist address =>
    obtain ⟨keyed, table, serves, holds⟩ := mirrors
    rw [Store.answer, serves.lookUp, holds.contains]
    exact ⟨rfl, keyed, table, serves.looked _, holds⟩
  | waste ids =>
    obtain ⟨keyed, table, serves, holds⟩ := mirrors
    refine ⟨rfl, keyed, table.waste ids, ?_, holds.opened, holds.sealed⟩
    exact ⟨serves.online, serves.failing, serves.hidden, by simp [Store.answer, serves.stored]⟩

theorem Mirrors.answerAll (mirrors : store.Mirrors cipher roster) (operations : List Operation) :
    (answerAll Store.answer store operations).1 = (answerAll Roster.answer roster operations).1 ∧
      (answerAll Store.answer store operations).2.Mirrors cipher
        (answerAll Roster.answer roster operations).2 := by
  induction operations generalizing store roster with
  | nil => exact ⟨rfl, mirrors⟩
  | cons operation operations ih =>
    obtain ⟨first, next⟩ := mirrors.answer operation
    obtain ⟨others, last⟩ := ih next
    refine ⟨?_, last⟩
    simp only [Roster.answerAll, first, others]

theorem mirrors_of_new (cipher : EmailCipher) : Mirrors { cipher } cipher [] :=
  ⟨rfl, .empty, ⟨rfl, rfl, rfl, rfl⟩, rfl, by simp [Table.empty]⟩

theorem Mirrors.persist_eq_iff (mirrors : store.Mirrors cipher roster) (nonce : Nonce)
    (participant : Participant) :
    store.persist nonce.bytes participant = (.error (.duplicate participant.address), store) ↔
      participant.address ∈ roster.map Participant.address := by
  have stored := (mirrors.persist nonce participant).1
  obtain ⟨keyed, table, serves, holds⟩ := mirrors
  constructor
  · intro refused
    by_cases taken : participant.address ∈ roster.map Participant.address
    · exact taken
    · simp [Roster.persist, taken, refused] at stored
  · intro taken
    refine persist_duplicate nonce.bytes (serves.reach .persist) ?_
    rwa [addresses_of_table serves.stored, Table.addresses_of_opened holds.opened]

theorem answers_eq_roster (cipher : EmailCipher) (operations : List Operation) :
    ∃ answers after roster,
      answerAll Store.answer { cipher } operations = (answers, after) ∧
      answerAll Roster.answer [] operations = (answers, roster) ∧
      after.Mirrors cipher roster ∧
      (∀ address, (after.lookUp address).1 = .ok true ↔ ∃ nonce participant,
        .persist nonce participant ∈ operations ∧ participant.address = address) ∧
      (∀ (nonce : Nonce) (participant : Participant),
        after.persist nonce.bytes participant =
            (.error (.duplicate participant.address), after) ↔
          participant.address ∈ roster.map Participant.address) ∧
      (∀ offset limit page, after.findPage offset limit = .ok page →
        page.stop ≤ roster.length) ∧
      ∀ (store : Store) (table : Table) (offset limit : Option Nat), store.Serves table →
        offset.getD 0 ≤ table.rows.length → limit ≠ some 0 →
          let page := (table.rows.drop (offset.getD 0)).take (limit.getD table.rows.length)
          (store.list offset limit = .error Table.unopened ↔
            ∃ row ∈ page, row.opened store.cipher = .error .unopened) ∧
          ∀ participants, store.list offset limit = .ok participants ↔
            page.map (Row.opened store.cipher) = participants.map .ok := by
  obtain ⟨answers, mirrors⟩ := (mirrors_of_new cipher).answerAll operations
  refine ⟨_, _, _, rfl, Prod.ext answers.symm rfl, mirrors, ?_, fun nonce participant =>
    mirrors.persist_eq_iff nonce participant, fun offset limit page => mirrors.stop_le, ?_⟩
  case refine_1 =>
    intro address
    obtain ⟨keyed, table, serves, holds⟩ := mirrors
    rw [serves.lookUp, Except.ok.injEq, holds.contains, decide_eq_true_iff, Roster.mem_answerAll]
    simp
  case refine_2 =>
    intro store table offset limit serves within several
    rcases serves.list_cases offset limit with ⟨outside, -⟩ | ⟨-, -, listed⟩
    · rcases outside with past | empty
      · omega
      · exact absurd empty several
    · rw [listed]
      exact ⟨Table.openRows_error_iff _, fun participants => Table.openRows_ok_iff _ participants⟩

def ann : Participant := ⟨"ann", "ann@example.org", Uuid.ofNat 1, Instant.ofMillis 7, "root"⟩

def bob : Participant := ⟨"bób", "bob@example.org", Uuid.ofNat 2, Instant.ofMillis 8, "ann"⟩

def visitors : List Operation :=
  let nonce : Nonce := ⟨List.replicate 12 0, by decide⟩
  [.persist nonce ann, .waste 3, .persist nonce bob, .persist nonce ann, .exist "bób",
    .list (some 1) (some 5), .list (some 3) none]

def emptied : Store where
  cipher := ⟨List.replicate 32 1, by decide⟩
  table := some { rows := [⟨1, "ann", "", Uuid.ofNat 1, Instant.ofMillis 7, "root"⟩], nextId := 2 }

theorem answers_eq_roster_visitors :
    (answerAll Store.answer { cipher := emptied.cipher } visitors).1 =
        [.persisted (.ok ()), .silence, .persisted (.ok ()),
          .persisted (.error (.duplicate "ann")), .existing (.ok true), .listed (.ok [bob]),
          .listed (.error (.outOfRange 3 none 2))] ∧
      emptied.list none (some 7) = .error Table.unopened := by
  obtain ⟨answers, after, roster, answered, mirrored, -, -, -, -, pages⟩ :=
    answers_eq_roster emptied.cipher visitors
  have expected : (answerAll Roster.answer [] visitors).1 = answers := by rw [mirrored]
  constructor
  · rw [answered, ← expected]
    rfl
  · have blank : Bytes.ofString "" = [] := by decide +kernel
    have shut : emptied.cipher.opened "ann" "" = .error .unopened := by
      rw [EmailCipher.opened, blank]
      rfl
    refine (pages emptied _ none (some 7) ⟨rfl, rfl, rfl, rfl⟩ (by decide) (by decide)).1.mpr
      ⟨_, List.mem_singleton.mpr rfl, ?_⟩
    rw [Row.opened, shut]
    rfl

end Store

end Enrolment
