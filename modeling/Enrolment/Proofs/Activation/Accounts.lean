import Enrolment.Proofs.Activation.Completion
import Mathlib.Data.List.Induction
import Mathlib.Data.List.Nodup

set_option autoImplicit false

namespace Enrolment

namespace Registrar

theorem advance_duplicate {registrar : Registrar} {participant : Participant} {table : Table}
    (draw : Draw) (reached : registrar.store.reach .persist = .ok table)
    (taken : participant.address ∈ registrar.store.addresses) :
    registrar.advance draw (.inserting participant) =
      (.finished (.error (.conflict participant.address)),
        registrar.counted (.activations .conflict)) := by
  simp only [advance, Store.persist_duplicate _ reached taken]
  rfl

end Registrar

namespace Office

open Registrar (Activation)

-- The rows are those of the start and of the journal, in which every call has a row at most, and
-- those calls have one that hold a participant.
structure Accounted (seeds : List Row) (journal : List (Nat × Row)) (office : Office) : Prop where
  rows : office.store.rows = seeds ++ journal.map Prod.snd
  distinct : (journal.map fun entry => entry.2.address).Nodup
  apart : ∀ entry ∈ journal, entry.2.address ∉ seeds.map Row.address
  writers : (journal.map Prod.fst).Nodup
  past : ∀ entry ∈ journal, ∃ call, office.calls[entry.1]? = some call ∧
    call.activation.isPending = false
  holders : ∀ (number : Nat) (call : Call) (participant : Participant),
    office.calls[number]? = some call → call.activation.holder? = some participant →
      ∃ nonce id,
        (number, Row.ofParticipant office.store.cipher nonce id participant) ∈ journal

theorem holder_of_result {office : Office} {number : Nat} {participant : Participant}
    (succeeded : office.result? number = some (.ok participant)) :
    ∃ call, office.calls[number]? = some call ∧
      call.activation.holder? = some participant := by
  obtain ⟨call, present, result⟩ := Option.bind_eq_some_iff.mp succeeded
  refine ⟨call, present, ?_⟩
  cases stage : call.activation with
  | finished result' =>
    simp only [stage, Activation.result?, Option.some.injEq] at result
    rw [result]
    rfl
  | lookingUpAddress | lookingUpSponsor | inserting | inserted =>
    simp [stage, Activation.result?] at result

namespace Accounted

variable {seeds : List Row} {journal : List (Nat × Row)} {office : Office}

theorem addresses (accounted : office.Accounted seeds journal) :
    office.store.addresses =
      seeds.map Row.address ++ journal.map fun entry => entry.2.address := by
  rw [Store.addresses, accounted.rows, List.map_append, List.map_map]
  rfl

theorem addresses_nodup (accounted : office.Accounted seeds journal)
    (unique : (seeds.map Row.address).Nodup) : office.store.addresses.Nodup := by
  rw [accounted.addresses, List.nodup_append']
  refine ⟨unique, accounted.distinct, fun address seeded added => ?_⟩
  obtain ⟨entry, member, rfl⟩ := List.mem_map.mp added
  exact accounted.apart entry member seeded

theorem row_of_result (accounted : office.Accounted seeds journal) {number : Nat}
    {participant : Participant} (succeeded : office.result? number = some (.ok participant)) :
    ∃ nonce id,
      (number, Row.ofParticipant office.store.cipher nonce id participant) ∈ journal := by
  obtain ⟨call, present, holds⟩ := holder_of_result succeeded
  exact accounted.holders number call participant present holds

theorem quiet {after : Office} {event : Event} (accounted : office.Accounted seeds journal)
    (keeps : office.Keeps after) (rows : after.store.rows = office.store.rows)
    (grows : office.calls.length ≤ after.calls.length)
    (calls : ∀ number call, after.calls[number]? = some call →
      office.Follows event number call) : after.Accounted seeds journal where
  rows := rows.trans accounted.rows
  distinct := accounted.distinct
  apart := accounted.apart
  writers := accounted.writers
  past := by
    intro entry member
    obtain ⟨former, present, done⟩ := accounted.past entry member
    have within : entry.1 < office.calls.length := (List.getElem?_eq_some_iff.mp present).1
    have bound : entry.1 < after.calls.length := by omega
    refine ⟨after.calls[entry.1], List.getElem?_eq_getElem bound, ?_⟩
    -- A call never gets back to where its write is still to come.
    rcases calls entry.1 _ (List.getElem?_eq_getElem bound) with
      ⟨same, earlier, moves⟩ | ⟨last, -⟩
    · rw [present] at earlier
      cases earlier
      cases pending : after.calls[entry.1].activation.isPending with
      | false => rfl
      | true => simpa [done] using moves.isPending pending
    · omega
  holders := by
    intro number call participant present holds
    rw [keeps.cipher]
    rcases calls number call present with ⟨former, earlier, moves⟩ | ⟨-, opens⟩
    · exact accounted.holders number former participant earlier (moves.holder? holds)
    · rcases opens.activation with ⟨_, _, _, _, claims, -, -, looking⟩ | ⟨error, failed⟩
      · simp [looking, Activation.holder?] at holds
      · simp [failed, Activation.holder?] at holds

theorem wrote {after : Office} {number id : Nat} {call : Call} {caller : Caller}
    {participant : Participant} {nonce : Bytes} (accounted : office.Accounted seeds journal)
    (present : office.calls[number]? = some call)
    (inserting : call.activation = .inserting participant)
    (writes : office.store.Writes nonce participant id after.store)
    (calls : after.calls = office.calls.set number ⟨call.desk, .inserted participant, caller⟩) :
    after.Accounted seeds
      (journal ++ [(number, Row.ofParticipant office.store.cipher nonce id participant)]) := by
  have within : number < office.calls.length := (List.getElem?_eq_some_iff.mp present).1
  have fresh := writes.fresh
  rw [accounted.addresses, List.mem_append, not_or] at fresh
  -- A call whose write is still to come has no row yet.
  have silent : number ∉ journal.map Prod.fst := by
    intro wrote
    obtain ⟨entry, member, rfl⟩ := List.mem_map.mp wrote
    obtain ⟨former, earlier, done⟩ := accounted.past entry member
    rw [present] at earlier
    cases earlier
    rw [inserting] at done
    cases done
  constructor
  case rows => rw [writes.rows, accounted.rows, List.map_append, List.append_assoc]; rfl
  case distinct =>
    rw [List.map_append, List.nodup_append']
    exact ⟨accounted.distinct, List.nodup_singleton _, by simpa using fresh.2⟩
  case apart =>
    intro entry member
    rcases List.mem_append.mp member with earlier | last
    · exact accounted.apart entry earlier
    · rw [List.mem_singleton.mp last]
      exact fresh.1
  case writers =>
    rw [List.map_append, List.nodup_append']
    exact ⟨accounted.writers, List.nodup_singleton _, by simpa using silent⟩
  case past =>
    intro entry member
    rcases List.mem_append.mp member with earlier | last
    · have other : entry.1 ≠ number := fun same => silent (same ▸ List.mem_map_of_mem earlier)
      obtain ⟨former, unchanged, done⟩ := accounted.past entry earlier
      exact ⟨former, by rw [calls, List.getElem?_set_ne other.symm, unchanged], done⟩
    · rw [List.mem_singleton.mp last, calls]
      exact ⟨_, List.getElem?_set_self within, rfl⟩
  case holders =>
    intro other found candidate later holds
    rw [calls] at later
    rw [writes.cipher]
    rcases getElem?_set_cases later with ⟨rfl, rfl⟩ | ⟨different, unchanged⟩
    · cases holds
      exact ⟨nonce, id, List.mem_append_right _ (List.mem_singleton_self _)⟩
    · obtain ⟨nonce, id, member⟩ := accounted.holders other found candidate unchanged holds
      exact ⟨nonce, id, List.mem_append_left _ member⟩

theorem step (accounted : office.Accounted seeds journal) (event : Event) :
    (office.step event).Accounted seeds (journal ++ office.written event) := by
  cases office.step_steps event with
  | quiet keeps rows grows calls =>
    rw [written_quiet rows, List.append_nil]
    exact accounted.quiet keeps rows grows calls
  | wrote keeps advances present inserting writes calls =>
    subst advances
    rw [written_advance writes.rows]
    exact accounted.wrote present inserting writes calls

end Accounted

theorem accounted_run (store : Store) (desks : Nat → Registrar) (events : List Event) :
    ((opened store desks).run events).Accounted store.rows
      ((opened store desks).journal events) := by
  induction events using List.reverseRecOn with
  | nil =>
    constructor
    case rows => simp [run, opened, journal]
    case holders => simp [run, opened]
    all_goals simp [journal]
  | append_singleton events event ih =>
    rw [run_concat, journal_concat]
    exact ih.step event

theorem filter_journal {journal : List (Nat × Row)} {entry : Nat × Row}
    (writers : (journal.map Prod.fst).Nodup) (member : entry ∈ journal) :
    journal.filter (fun other => other.1 = entry.1) = [entry] := by
  induction journal with
  | nil => cases member
  | cons head rest ih =>
    rw [List.map_cons, List.nodup_cons] at writers
    rcases List.mem_cons.mp member with rfl | later
    · have others : rest.filter (fun other => other.1 = entry.1) = [] := by
        rw [List.filter_eq_nil_iff]
        intro other within same
        exact writers.1 (List.mem_map.mpr ⟨other, within, by simpa using same⟩)
      simp [others]
    · have different : head.1 ≠ entry.1 := fun same =>
        writers.1 (same ▸ List.mem_map_of_mem later)
      simpa [different] using ih writers.2 later

def IsWriting (office : Office) (number : Nat) (participant : Participant) : Prop :=
  ∃ desk, office.calls[number]? = some ⟨desk, .inserting participant, .waiting⟩

structure IsTurnedAway (office : Office) (number : Nat) (address : String) (after : Office) :
    Prop where
  result : after.result? number = some (.error (.conflict address))
  store : after.store = office.store
  desks : ∀ desk, ∃ tally, after.desk desk = { office.desk desk with tally }
  calls : ∀ other ≠ number, after.calls[other]? = office.calls[other]?

theorem turned_away {office : Office} {number : Nat} {participant : Participant} {table : Table}
    (draw : Draw) (writing : office.IsWriting number participant)
    (reached : office.store.reach .persist = .ok table)
    (taken : participant.address ∈ office.store.addresses) :
    office.IsTurnedAway number participant.address (office.step (.advance number draw)) := by
  obtain ⟨desk, present⟩ := writing
  have within : number < office.calls.length := (List.getElem?_eq_some_iff.mp present).1
  have advanced : (office.desk desk).advance draw (.inserting participant) = _ :=
    Registrar.advance_duplicate draw reached taken
  have after : office.step (.advance number draw) =
      { office.seat desk ((office.desk desk).counted (.activations .conflict)) with
        calls := office.calls.set number
          ⟨desk, .finished (.error (.conflict participant.address)), .waiting⟩ } := by
    simp [Office.step, proceed, Call.advance, present, advanced]
  rw [after]
  constructor
  case result => simp [result?, within, Activation.result?]
  case store => rfl
  case desks =>
    intro other
    by_cases same : other = desk
    · subst same
      exact ⟨_, by simp [seat, Office.desk, Registrar.counted]; rfl⟩
    · exact ⟨_, by simp [seat, Office.desk, Registrar.counted, same]; rfl⟩
  case calls =>
    intro other different
    exact List.getElem?_set_ne different.symm

theorem activations_exclude_each_other (store : Store) (desks : Nat → Registrar)
    (events : List Event) :
    let office := (opened store desks).run events
    let journal := (opened store desks).journal events
    office.store.rows = store.rows ++ journal.map Prod.snd ∧
      (store.addresses.Nodup → office.store.addresses.Nodup) ∧
      (∀ earlier later number result, events = earlier ++ later →
        ((opened store desks).run earlier).result? number = some result →
          office.result? number = some result) ∧
      (∀ first second one other, office.result? first = some (.ok one) →
        office.result? second = some (.ok other) → one.address = other.address →
          first = second) ∧
      (∀ number participant, office.result? number = some (.ok participant) →
        ∃ nonce id, journal.filter (fun entry => entry.1 = number) =
          [(number, Row.ofParticipant office.store.cipher nonce id participant)]) ∧
      ∀ earlier later number participant table draw, events = earlier ++ later →
        participant.address ∈ ((opened store desks).run earlier).store.addresses →
        office.IsWriting number participant → office.store.reach .persist = .ok table →
          office.IsTurnedAway number participant.address
            (office.step (.advance number draw)) := by
  intro office journal
  have accounted : office.Accounted store.rows journal := accounted_run store desks events
  refine ⟨accounted.rows, fun unique => ?_, ?_, ?_, ?_, ?_⟩
  · exact accounted.addresses_nodup unique
  · intro earlier later number result parts returned
    have lasting := ((opened store desks).run earlier).result?_run later returned
    rwa [← run_append, ← parts] at lasting
  · intro first second one other firstOk secondOk same
    -- Both calls have a row in the journal, and there the address occurs once.
    obtain ⟨_, _, firstRow⟩ := accounted.row_of_result firstOk
    obtain ⟨_, _, secondRow⟩ := accounted.row_of_result secondOk
    exact congrArg Prod.fst
      (List.inj_on_of_nodup_map accounted.distinct firstRow secondRow same)
  · intro number participant succeeded
    obtain ⟨nonce, id, member⟩ := accounted.row_of_result succeeded
    exact ⟨nonce, id, filter_journal accounted.writers member⟩
  · intro earlier later number participant table draw parts stored writing reached
    have lasting := ((opened store desks).run earlier).addresses_run later stored
    rw [← run_append, ← parts] at lasting
    exact turned_away draw writing reached lasting

def rivalry : List Event :=
  [.register 0 ⟨enrolledAt, []⟩ newcomer,
    .present 0 activatedAt newcomerToken (Token.fingerprint newcomerToken),
    .present 1 activatedAt newcomerToken (Token.fingerprint newcomerToken)] ++
  [0, 0, 1, 1, 0, 0].map fun number => .advance number ⟨activatedAt, []⟩

def waiting : Office := registered.welcome 0 (.lookingUpAddress newcomer, registered.desk 0)

theorem run_rivalry :
    frontOffice.run rivalry =
      (waiting.welcome 1 (.lookingUpAddress newcomer, waiting.desk 1)).run
        ([0, 0, 1, 1, 0, 0].map fun number => .advance number ⟨activatedAt, []⟩) := by
  have first := registered.step_present 0 (authorize_newcomer registered 0 registered_tokens)
  have second := waiting.step_present 1 (authorize_newcomer waiting 1 rfl)
  rw [rivalry, run_append, ← second, waiting, ← first]
  rfl

theorem activations_exclude_rivals :
    let office := frontOffice.run rivalry
    office.result? 0 = some (.ok newParticipant) ∧ office.store.addresses = ["root", "ann"] ∧
      (∃ nonce id, (frontOffice.journal rivalry).filter (fun entry => entry.1 = 0) =
        [(0, Row.ofParticipant office.store.cipher nonce id newParticipant)]) ∧
      office.IsWriting 1 newParticipant ∧
      office.IsTurnedAway 1 "ann" (office.step (.advance 1 ⟨activatedAt, []⟩)) := by
  intro office
  obtain ⟨-, -, -, -, single, late⟩ :=
    activations_exclude_each_other foundation (fun _ => frontDesk) rivalry
  have succeeded : office.result? 0 = some (.ok newParticipant) := by
    change (frontOffice.run rivalry).result? 0 = _
    rw [run_rivalry]
    rfl
  have addresses : office.store.addresses = ["root", "ann"] := by
    change (frontOffice.run rivalry).store.addresses = _
    rw [run_rivalry]
    rfl
  have writing : office.IsWriting 1 newParticipant := by
    change (frontOffice.run rivalry).IsWriting 1 _
    rw [run_rivalry]
    exact ⟨1, rfl⟩
  obtain ⟨table, reached⟩ : ∃ table, office.store.reach .persist = .ok table := by
    change ∃ table, (frontOffice.run rivalry).store.reach .persist = .ok table
    rw [run_rivalry]
    exact ⟨_, rfl⟩
  have stored : newParticipant.address ∈ office.store.addresses := by
    rw [addresses]
    decide
  exact ⟨succeeded, addresses, single 0 newParticipant succeeded, writing,
    late rivalry [] 1 newParticipant table ⟨activatedAt, []⟩ (by simp) stored writing reached⟩

end Office

end Enrolment
