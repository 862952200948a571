import Enrolment.Proofs.Store.Words

set_option autoImplicit false

namespace Enrolment

open Roster (Operation)

namespace Table

def IsDistinct (table : Table) : Prop := (table.rows.map Row.address).Nodup

structure Grows (cipher : EmailCipher) (table later : Table) : Prop where
  rows : table.rows <+: later.rows
  added : ∀ row ∈ later.rows, row ∈ table.rows ∨ ∃ participant, row.opened cipher = .ok participant
  distinct : table.IsDistinct → later.IsDistinct

variable {cipher : EmailCipher} {table later last : Table}

theorem Grows.refl (cipher : EmailCipher) (table : Table) : table.Grows cipher table :=
  ⟨List.prefix_refl _, fun _ => .inl, id⟩

theorem Grows.trans (first : table.Grows cipher later) (second : later.Grows cipher last) :
    table.Grows cipher last where
  rows := first.rows.trans second.rows
  added row member := (second.added row member).elim (first.added row) .inr
  distinct := second.distinct ∘ first.distinct

theorem Grows.add (cipher : EmailCipher) (nonce : Nonce) (participant : Participant)
    (free : table.contains participant.address = false) :
    table.Grows cipher (table.add cipher nonce.bytes participant) where
  rows := List.prefix_append _ _
  added row member := by
    rcases List.mem_append.mp member with before | new
    · exact .inl before
    · obtain rfl := List.mem_singleton.mp new
      exact .inr ⟨_, Row.opened_ofParticipant cipher nonce table.nextId participant⟩
  distinct distinct := by
    have fresh : participant.address ∉ table.rows.map Row.address := by
      rw [← table.contains_iff, free]
      decide
    rw [IsDistinct, Table.rows_add, List.map_append, List.nodup_append]
    refine ⟨distinct, List.pairwise_singleton _ _, ?_⟩
    rintro address before _ latest rfl
    obtain rfl := List.mem_singleton.mp latest
    exact fresh before

theorem openRows_cases (cipher : EmailCipher) (rows : List Row) :
    (∃ participants, openRows cipher rows = .ok participants) ∨
      openRows cipher rows = .error unopened := by
  induction rows with
  | nil => exact .inl ⟨[], rfl⟩
  | cons row rows ih =>
    rw [openRows_cons]
    rcases row.opened_cases cipher with ⟨participant, opened⟩ | shut
    · rcases ih with ⟨participants, others⟩ | others
      · exact .inl ⟨participant :: participants, by rw [opened, others]; rfl⟩
      · exact .inr (by rw [opened, others]; rfl)
    · exact .inr (by rw [shut]; rfl)

end Table

theorem Page.cut_of_prefix {α : Type} (page : Page) {entries later : List α}
    (grown : entries <+: later) (within : page.stop ≤ entries.length) :
    page.cut later = page.cut entries := by
  obtain ⟨added, rfl⟩ := grown
  simp only [Page.stop] at within
  rw [Page.cut, Page.cut, List.drop_append_of_le_length (by omega),
    List.take_append_of_le_length (by rw [List.length_drop]; omega)]

namespace Store

variable {store : Store} {table : Table}

theorem Serves.answer (serves : store.Serves table) (operation : Operation) :
    ∃ later, (store.answer operation).2.Serves later ∧ table.Grows store.cipher later ∧
      (store.answer operation).2.cipher = store.cipher := by
  cases operation with
  | list => exact ⟨table, serves, .refl _ _, rfl⟩
  | exist address =>
    rw [Store.answer, serves.lookUp]
    exact ⟨table, serves.looked _, .refl _ _, rfl⟩
  | waste ids =>
    refine ⟨table.waste ids, ?_, ⟨List.prefix_refl _, fun _ => .inl, id⟩, rfl⟩
    exact ⟨serves.online, serves.failing, serves.hidden, by simp [Store.answer, serves.stored]⟩
  | persist nonce participant =>
    simp only [Store.answer, Store.persist, serves.reach, bind, Except.bind, Table.insert]
    cases free : table.contains participant.address with
    | true => exact ⟨table, serves, .refl _ _, rfl⟩
    | false => exact ⟨_, ⟨serves.online, serves.failing, serves.hidden, rfl⟩,
        .add store.cipher nonce participant free, rfl⟩

theorem Serves.answerAll (serves : store.Serves table) (operations : List Operation) :
    ∃ later, (Roster.answerAll Store.answer store operations).2.Serves later ∧
      table.Grows store.cipher later ∧
      (Roster.answerAll Store.answer store operations).2.cipher = store.cipher := by
  induction operations generalizing store table with
  | nil => exact ⟨table, serves, .refl _ _, rfl⟩
  | cons operation operations ih =>
    obtain ⟨next, answered, grown, keyed⟩ := serves.answer operation
    obtain ⟨last, others, further, same⟩ := ih answered
    rw [keyed] at further same
    exact ⟨last, others, grown.trans further, same⟩

inductive Reading
  | counting
  | loading (page : Page)
  | ended
  | failed (error : StoreError)

structure Reader where
  pages : List (List Participant) := []
  reading : Reading := .counting

def Reader.step (size : Nat) (store : Store) (reader : Reader) : Reader :=
  match reader.reading with
  | .counting =>
    match store.findPage (some (reader.pages.length * size)) (some size) with
    | .ok page => { reader with reading := .loading page }
    | .error error => { reader with reading := .failed error }
  | .loading page =>
    match store.loadPage page with
    | .ok participants => {
        pages := reader.pages ++ [participants]
        reading := if participants.length < size then .ended else .counting }
    | .error error => { reader with reading := .failed error }
  | .ended | .failed _ => reader

inductive Traffic
  | operate (operation : Operation)
  | read

def Traffic.isRead : Traffic → Bool
  | read => true
  | operate _ => false

def visit (size : Nat) : Store × Reader → Traffic → Store × Reader
  | (store, reader), .operate operation => ((store.answer operation).2, reader)
  | (store, reader), .read => (store, reader.step size store)

-- What a reader knows after so many statements, with its pages up to a row.
def Reading.Knows (cipher : EmailCipher) (size first : Nat) (rows : List Row)
    (pages stop reads : Nat) : Reading → Prop
  | counting => stop = pages * size ∧ reads = 2 * pages
  | loading page =>
    stop = pages * size ∧ reads = 2 * pages + 1 ∧ page.start = stop ∧ page.stop ≤ rows.length ∧
      (page.size = size ∨ page.size < size ∧ first ≤ page.stop)
  | ended => first ≤ stop
  | failed error => error = Table.unopened ∧ ∃ row ∈ rows, row.opened cipher = .error .unopened

structure Reader.Covers (reader : Reader) (cipher : EmailCipher) (size first : Nat)
    (rows : List Row) (stop reads : Nat) : Prop where
  opened : reader.pages.flatten.map .ok = (rows.take stop).map (Row.opened cipher)
  within : stop ≤ rows.length
  knows : reader.reading.Knows cipher size first rows reader.pages.length stop reads

variable {cipher : EmailCipher} {size first stop reads : Nat} {rows later : List Row}
  {reader : Reader}

theorem Reader.Covers.grow (covers : reader.Covers cipher size first rows stop reads)
    (grown : rows <+: later) : reader.Covers cipher size first later stop reads := by
  obtain ⟨added, rfl⟩ := grown
  refine ⟨?_, ?_, ?_⟩
  · rw [List.take_append_of_le_length covers.within]
    exact covers.opened
  · rw [List.length_append]
    exact Nat.le_add_right_of_le covers.within
  · have knows := covers.knows
    cases reading : reader.reading with
    | counting =>
      rw [reading] at knows
      exact knows
    | ended =>
      rw [reading] at knows
      exact knows
    | loading page =>
      rw [reading] at knows
      obtain ⟨place, counted, start, fits, short⟩ := knows
      refine ⟨place, counted, start, ?_, short⟩
      rw [List.length_append]
      exact Nat.le_add_right_of_le fits
    | failed error =>
      rw [reading] at knows
      obtain ⟨cause, row, member, shut⟩ := knows
      exact ⟨cause, row, List.mem_append_left _ member, shut⟩

theorem Reader.Covers.step (serves : store.Serves table) (positive : 0 < size)
    (grown : first ≤ table.rows.length)
    (covers : reader.Covers store.cipher size first table.rows stop reads) :
    ∃ further, (reader.step size store).Covers store.cipher size first table.rows further
      (reads + 1) := by
  obtain ⟨pages, reading⟩ := reader
  obtain ⟨opened, within, knows⟩ := covers
  cases reading with
  | ended => exact ⟨stop, opened, within, knows⟩
  | failed error => exact ⟨stop, opened, within, knows⟩
  | counting =>
    obtain ⟨rfl, rfl⟩ := knows
    simp only [Reader.step, serves.findPage]
    rcases Page.bounds_cases table.rows.length (some (pages.length * size)) (some size) with
      ⟨past | empty, -⟩ | ⟨-, -, found⟩
    · exact absurd within (Nat.not_le.mpr past)
    · simp only [Option.some.injEq] at empty
      omega
    · rw [found]
      refine ⟨pages.length * size, opened, within, rfl, rfl, rfl, ?_⟩
      simp only [Option.getD_some, Page.stop] at within ⊢
      omega
  | loading page =>
    obtain ⟨rfl, rfl, start, fits, short⟩ := knows
    simp only [Reader.step, serves.loadPage]
    rcases Table.openRows_cases store.cipher (page.cut table.rows) with
      ⟨participants, loaded⟩ | shut
    · rw [loaded]
      have cut := (Table.openRows_ok_iff _ participants).mp loaded
      have length : participants.length = page.size := by
        have same := congrArg List.length cut
        simp only [List.length_map, Page.cut, List.length_take, List.length_drop] at same
        simp only [Page.stop] at fits
        omega
      refine ⟨page.stop, ?_, fits, ?_⟩
      · rw [List.flatten_append, List.flatten_singleton, List.map_append, opened, ← cut, Page.stop,
          List.take_add, List.map_append, start, Page.cut, start]
      · by_cases last : participants.length < size
        · simp only [last, if_true]
          exact short.elim (by omega) And.right
        · simp only [last, if_false, List.length_append, List.length_singleton]
          have whole : page.size = size := by omega
          refine ⟨?_, by omega⟩
          rw [Page.stop, start, whole, Nat.add_one_mul]
    · rw [shut]
      refine ⟨pages.length * size, opened, within, rfl, ?_⟩
      obtain ⟨row, member, unopened⟩ := (Table.openRows_error_iff _).mp shut
      exact ⟨row, List.mem_of_mem_drop (List.mem_of_mem_take member), unopened⟩

theorem Reader.Covers.visits (serves : store.Serves table) (positive : 0 < size)
    (grown : first ≤ table.rows.length)
    (covers : reader.Covers store.cipher size first table.rows stop reads)
    (traffic : List Traffic) :
    ∃ later further, (traffic.foldl (visit size) (store, reader)).1.Serves later ∧
      table.Grows store.cipher later ∧
      (traffic.foldl (visit size) (store, reader)).2.Covers store.cipher size first later.rows
        further (reads + traffic.countP Traffic.isRead) := by
  induction traffic generalizing store table reader stop reads with
  | nil => exact ⟨table, stop, serves, .refl _ _, covers⟩
  | cons event traffic ih =>
    cases event with
    | read =>
      obtain ⟨further, stepped⟩ := covers.step serves positive grown
      obtain ⟨later, last, served, grows, covered⟩ := ih serves grown stepped
      refine ⟨later, last, served, grows, ?_⟩
      rw [List.countP_cons_of_pos rfl]
      rw [Nat.add_assoc, Nat.add_comm 1] at covered
      exact covered
    | operate operation =>
      obtain ⟨next, answered, grows, keyed⟩ := serves.answer operation
      have longer := Nat.le_trans grown grows.rows.length_le
      obtain ⟨later, last, served, further, covered⟩ :=
        ih answered longer (keyed ▸ covers.grow grows.rows)
      rw [keyed] at further covered
      refine ⟨later, last, served, grows.trans further, ?_⟩
      rw [List.countP_cons_of_neg Bool.false_ne_true]
      exact covered

theorem Reader.Covers.ends (covers : reader.Covers cipher size first rows stop reads)
    (positive : 0 < size) (enough : 2 * (rows.length / size + 1) ≤ reads) :
    reader.reading = .ended ∨ ∃ error, reader.reading = .failed error := by
  have knows := covers.knows
  have within := covers.within
  cases reading : reader.reading with
  | ended => exact .inl rfl
  | failed error => exact .inr ⟨error, rfl⟩
  | counting =>
    rw [reading] at knows
    obtain ⟨rfl, rfl⟩ := knows
    have read := (Nat.le_div_iff_mul_le positive).mpr within
    omega
  | loading page =>
    rw [reading] at knows
    obtain ⟨rfl, rfl, -⟩ := knows
    have read := (Nat.le_div_iff_mul_le positive).mpr within
    omega

theorem Serves.list_words (serves : store.Serves table) {count : Int64} (offset limit : Option UInt64)
    (counted : count.toInt = table.rows.length) :
    let outside := table.rows.length < (offset.getD 0).toNat ∨ limit = some 0
    let listed := store.list (offset.map UInt64.toNat) (limit.map UInt64.toNat)
    (outside ↔ listed = .error
      (.outOfRange (offset.getD 0).toNat (limit.map UInt64.toNat) table.rows.length)) ∧
      (¬ outside → ∃ start stop page,
        Page.wordBounds count.toUInt64 offset limit = .ok (start, stop) ∧
        Page.Covers table.rows.length offset limit start stop ∧
        store.findPage (offset.map UInt64.toNat) (limit.map UInt64.toNat) = .ok page ∧
        page.start = start.toNat ∧ page.stop = stop.toNat ∧
        ∀ operations, (Roster.answerAll Store.answer store operations).2.loadPage page =
          Table.openRows store.cipher
            ((table.rows.drop start.toNat).take (stop.toNat - start.toNat))) := by
  intro outside listed
  obtain ⟨cast, -⟩ := Page.toNat_count counted
  have found : store.findPage (offset.map UInt64.toNat) (limit.map UInt64.toNat) =
      (Page.wordBounds count.toUInt64 offset limit).map fun ends =>
        ⟨ends.1.toNat, ends.2.toNat - ends.1.toNat⟩ := by
    rw [serves.findPage, ← Page.bounds_eq_wordBounds, cast]
  have past : count.toUInt64 < offset.getD 0 ↔ table.rows.length < (offset.getD 0).toNat := by
    rw [UInt64.lt_iff_toNat_lt, cast]
  rcases Page.wordBounds_cases count.toUInt64 offset limit with ⟨range, refused⟩ |
    ⟨start, stop, given, first, ordered, fits, several, -⟩
  · rw [past] at range
    refine ⟨⟨fun _ => ?_, fun _ => range⟩, fun within => absurd range within⟩
    simp only [listed, list, found, refused, bind, Except.bind, Except.map, cast]
  · have covers := Page.covers_of_wordBounds counted given
    have stops : (⟨start.toNat, stop.toNat - start.toNat⟩ : Page).stop = stop.toNat := by
      have ordered := UInt64.le_iff_toNat_le.mp covers.ordered
      simp only [Page.stop]
      omega
    have within : ¬ outside := by
      rw [not_or, ← past, UInt64.not_lt, ← first]
      exact ⟨UInt64.le_trans ordered fits, several⟩
    rw [given] at found
    refine ⟨⟨fun range => absurd range within, ?_⟩, fun _ =>
      ⟨start, stop, _, given, covers, found, rfl, stops, ?_⟩⟩
    · intro refused
      simp only [listed, list, found, serves.loadPage, bind, Except.bind, Except.map] at refused
      rcases Table.openRows_cases store.cipher (Page.cut _ table.rows) with ⟨_, loaded⟩ | shut
      · cases loaded.symm.trans refused
      · cases shut.symm.trans refused
    · intro operations
      obtain ⟨later, serving, grows, keyed⟩ := serves.answerAll operations
      have fits : stop.toNat ≤ table.rows.length := by
        rw [covers.last]
        exact Nat.min_le_right _ _
      rw [serving.loadPage, keyed, Page.cut_of_prefix _ grows.rows (stops.symm ▸ fits)]
      rfl

theorem pages_cover (serves : store.Serves table) (distinct : table.IsDistinct) (positive : 0 < size)
    (traffic : List Traffic) :
    (∃ later stop reader,
      (traffic.foldl (visit size) (store, {})).2 = reader ∧
      (traffic.foldl (visit size) (store, {})).1.Serves later ∧
      table.rows <+: later.rows ∧ (later.rows.map Row.id).Pairwise (· < ·) ∧
      later.IsDistinct ∧ stop ≤ later.rows.length ∧
      reader.pages.flatten.map .ok = (later.rows.take stop).map (Row.opened store.cipher) ∧
      (reader.pages.flatten.map Participant.address).Nodup ∧
      (reader.reading = .counting → stop = reader.pages.length * size) ∧
      (reader.reading = .ended → table.rows.length ≤ stop) ∧
      (∀ error, reader.reading = .failed error → error = Table.unopened ∧
        ∃ row ∈ table.rows, row.opened store.cipher = .error .unopened) ∧
      (2 * (later.rows.length / size + 1) ≤ traffic.countP Traffic.isRead →
        reader.reading = .ended ∨ ∃ error, reader.reading = .failed error)) ∧
    ∀ (count : Int64) (offset limit : Option UInt64), count.toInt = table.rows.length →
      let outside := table.rows.length < (offset.getD 0).toNat ∨ limit = some 0
      let listed := store.list (offset.map UInt64.toNat) (limit.map UInt64.toNat)
      (outside ↔ listed = .error
        (.outOfRange (offset.getD 0).toNat (limit.map UInt64.toNat) table.rows.length)) ∧
      (¬ outside → ∃ start stop page,
        Page.wordBounds count.toUInt64 offset limit = .ok (start, stop) ∧
        Page.Covers table.rows.length offset limit start stop ∧
        store.findPage (offset.map UInt64.toNat) (limit.map UInt64.toNat) = .ok page ∧
        page.start = start.toNat ∧ page.stop = stop.toNat ∧
        ∀ operations, (Roster.answerAll Store.answer store operations).2.loadPage page =
          Table.openRows store.cipher
            ((table.rows.drop start.toNat).take (stop.toNat - start.toNat))) := by
  refine ⟨?_, fun count offset limit counted => serves.list_words offset limit counted⟩
  have blank : Reader.Covers {} store.cipher size table.rows.length table.rows 0 0 :=
    ⟨rfl, Nat.zero_le _, (Nat.zero_mul size).symm, rfl⟩
  obtain ⟨later, stop, served, grows, covers⟩ :=
    blank.visits serves positive (Nat.le_refl _) traffic
  rw [Nat.zero_add] at covers
  have apart := grows.distinct distinct
  have knows := covers.knows
  refine ⟨later, stop, _, rfl, served, grows.rows, later.increasing, apart, covers.within,
    covers.opened, ?_, ?_, ?_, ?_, covers.ends positive⟩
  case refine_1 =>
    rw [← Table.addresses_of_opened covers.opened.symm, List.map_take]
    exact apart.sublist (List.take_sublist _ _)
  case refine_2 =>
    intro reading
    rw [reading] at knows
    exact knows.1
  case refine_3 =>
    intro reading
    rw [reading] at knows
    exact knows
  case refine_4 =>
    -- A row that does not open was there from the beginning.
    intro error reading
    rw [reading] at knows
    obtain ⟨cause, row, member, shut⟩ := knows
    refine ⟨cause, row, ?_, shut⟩
    rcases grows.added row member with before | ⟨participant, opened⟩
    · exact before
    · cases shut.symm.trans opened

def soleRow : Table where
  rows := [.ofParticipant emptied.cipher (List.replicate 12 0) 1 ann]
  nextId := 2

def enrolling : List Traffic :=
  [.read, .operate (.persist ⟨List.replicate 12 1, by decide⟩ bob), .read, .read, .read, .read,
    .read]

theorem pages_cover_enrolling :
    Serves { emptied with table := some soleRow } soleRow ∧ soleRow.IsDistinct ∧ 0 < 1 ∧
      ∃ reader stop,
        (enrolling.foldl (visit 1) ({ emptied with table := some soleRow }, {})).2 = reader ∧
        reader.reading = .ended ∧ 1 ≤ stop ∧ (reader.pages.flatten).length = stop := by
  have serves : Serves { emptied with table := some soleRow } soleRow := ⟨rfl, rfl, rfl, rfl⟩
  have distinct : soleRow.IsDistinct := List.pairwise_singleton _ _
  obtain ⟨⟨later, stop, reader, read, served, -, -, -, within, opened, -, -, whole, failed, enough⟩, -⟩ :=
    pages_cover serves distinct Nat.one_pos enrolling
  have length : later.rows.length = 2 := by
    have stored := congrArg (Option.map fun table : Table => table.rows.length) served.stored
    exact (Option.some.inj stored).symm
  have ended : reader.reading = .ended := by
    rcases enough (by rw [length]; decide) with ended | ⟨error, shut⟩
    · exact ended
    · obtain ⟨-, row, member, refused⟩ := failed error shut
      obtain rfl := List.mem_singleton.mp member
      have opens := Row.opened_ofParticipant emptied.cipher ⟨List.replicate 12 0, by decide⟩ 1 ann
      cases opens.symm.trans refused
  refine ⟨serves, distinct, Nat.one_pos, reader, stop, read, ended, whole ended, ?_⟩
  have same := congrArg List.length opened
  rw [List.length_map, List.length_map, List.length_take] at same
  omega

end Store

end Enrolment
