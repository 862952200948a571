import Enrolment.Proofs.Activation.Memory
import Mathlib.Data.List.Perm.Basic

set_option autoImplicit false

namespace Enrolment

open Registrar (Activation)

namespace Call

structure HasStopped (call : Call) : Prop where
  failed : call.activation.succeeded? = none
  ended : call.caller ≠ .waiting ∨ ∃ error, call.activation = .finished (.error error)

variable {call : Call}

theorem HasStopped.advance (stopped : call.HasStopped) (draw : Draw) (registrar : Registrar) :
    (call.advance draw registrar).1.HasStopped := by
  obtain ⟨failed, ended⟩ := stopped
  rcases call with ⟨desk, activation, waiting | left | forgotten⟩
  · rcases ended with left | ⟨error, rfl⟩
    · exact absurd rfl left
    · exact ⟨rfl, .inr ⟨error, rfl⟩⟩
  · -- The end of a statement does not make an activation succeed.
    exact ⟨(registrar.finishStatement_marks draw activation).2.trans failed, .inl (by simp [advance])⟩
  · exact ⟨failed, ended⟩

theorem HasStopped.lose (stopped : call.HasStopped) (cause : Cause) (registrar : Registrar) :
    (call.lose cause registrar).1.HasStopped := by
  obtain ⟨failed, ended⟩ := stopped
  rcases call with ⟨desk, activation, waiting | left | forgotten⟩
  · rcases ended with left | ⟨error, rfl⟩
    · exact absurd rfl left
    · exact ⟨rfl, .inr ⟨error, rfl⟩⟩
  all_goals exact ⟨failed, ended⟩

theorem abandon_caller (call : Call) : call.abandon.caller ≠ .waiting := by
  rcases call with ⟨desk, activation, waiting | left | forgotten⟩ <;> simp [abandon]

theorem HasStopped.abandon (stopped : call.HasStopped) : call.abandon.HasStopped :=
  ⟨call.activation_abandon ▸ stopped.failed, .inl call.abandon_caller⟩

theorem caller_advance_ne_left (call : Call) (draw : Draw) (registrar : Registrar) :
    (call.advance draw registrar).1.caller ≠ .left := by
  rcases call with ⟨desk, activation, waiting | left | forgotten⟩ <;> simp [advance]

theorem lose_of_left {cause : Cause} {registrar : Registrar}
    (left : (call.lose cause registrar).1.caller = .left) :
    (call.lose cause registrar).1 = call := by
  rcases call with ⟨desk, activation, waiting | left | forgotten⟩
  · cases left
  all_goals rfl

theorem abandon_of_left (left : call.abandon.caller = .left) :
    call.abandon = call ∨ call = { call.abandon with caller := .waiting } := by
  rcases call with ⟨desk, activation, waiting | left | forgotten⟩
  · exact .inr rfl
  · exact .inl rfl
  · cases left

end Call

namespace Office

def afterwards (office : Office) (event : Event) (number : Nat) (call : Call) : Call :=
  match event with
  | .advance other draw =>
    if other = number then (call.advance draw (office.desk call.desk)).1 else call
  | .lose other cause =>
    if other = number then (call.lose cause (office.desk call.desk)).1 else call
  | .abandon other => if other = number then call.abandon else call
  | .register .. | .present .. | .disturb .. => call

theorem getElem?_proceed (office : Office) (other : Nat) (go : Registrar → Call → Call × Registrar)
    {number : Nat} {call : Call} (present : office.calls[number]? = some call) :
    (office.proceed other go).calls[number]? = some
      (if other = number then (go (office.desk call.desk) call).1 else call) := by
  have within : number < office.calls.length := (List.getElem?_eq_some_iff.mp present).1
  by_cases same : other = number
  · subst same
    simp only [proceed, present, if_true]
    exact List.getElem?_set_self within
  · unfold proceed
    split <;> simp [same, present]

theorem getElem?_step (office : Office) (event : Event) {number : Nat} {call : Call}
    (present : office.calls[number]? = some call) :
    (office.step event).calls[number]? = some (office.afterwards event number call) := by
  have within : number < office.calls.length := (List.getElem?_eq_some_iff.mp present).1
  cases event with
  | register | disturb => exact present
  | present =>
    simp only [step, welcome, List.getElem?_append_left within]
    exact present
  | advance other draw => exact office.getElem?_proceed other _ present
  | lose other cause => exact office.getElem?_proceed other _ present
  | abandon other =>
    simp only [step, List.getElem?_modify, present, afterwards]
    split <;> rfl

inductive CutsOff (number : Nat) (participant : Participant) : Activation → Event → Prop
  | writing : CutsOff number participant (.inserting participant) (.abandon number)
  | written : CutsOff number participant (.inserted participant) (.abandon number)
  | lost (cause : Cause) : CutsOff number participant (.inserted participant) (.lose number cause)

def IsCutOff (office : Office) (events : List Event) (number : Nat) (participant : Participant) :
    Prop :=
  ∃ earlier event later desk activation, events = earlier ++ event :: later ∧
    (office.run earlier).calls[number]? = some ⟨desk, activation, .waiting⟩ ∧
    CutsOff number participant activation event

inductive Fate (office : Office) (events : List Event) (number : Nat)
    (participant : Participant) : Prop
  | awaited (desk : Nat)
      (present : (office.run events).calls[number]? =
        some ⟨desk, .inserted participant, .waiting⟩)
  | completed (desk : Nat)
      (completed : (office.run events).completed? number desk = some participant)
  | cutOff (cut : office.IsCutOff events number participant) (call : Call)
      (present : (office.run events).calls[number]? = some call) (stopped : call.HasStopped)

variable {office : Office} {events : List Event} {number : Nat} {participant : Participant}

theorem IsCutOff.concat (cut : office.IsCutOff events number participant) (event : Event) :
    office.IsCutOff (events ++ [event]) number participant := by
  obtain ⟨earlier, cutting, later, desk, activation, parts, present, cuts⟩ := cut
  exact ⟨earlier, cutting, later ++ [event], desk, activation, by simp [parts], present, cuts⟩

theorem isCutOff_concat {desk : Nat} {activation : Activation} {event : Event}
    (present : (office.run events).calls[number]? = some ⟨desk, activation, .waiting⟩)
    (cuts : CutsOff number participant activation event) :
    office.IsCutOff (events ++ [event]) number participant :=
  ⟨events, event, [], desk, activation, rfl, present, cuts⟩

theorem hasStopped_afterwards {call : Call} (stopped : call.HasStopped) (event : Event) :
    (office.afterwards event number call).HasStopped := by
  cases event with
  | register | present | disturb => exact stopped
  | advance other draw =>
    simp only [afterwards]
    split
    · exact stopped.advance draw _
    · exact stopped
  | lose other cause =>
    simp only [afterwards]
    split
    · exact stopped.lose cause _
    · exact stopped
  | abandon other =>
    simp only [afterwards]
    split
    · exact stopped.abandon
    · exact stopped

theorem Fate.concat (fate : office.Fate events number participant) (event : Event) :
    office.Fate (events ++ [event]) number participant := by
  cases fate with
  | completed desk completed =>
    refine .completed desk ?_
    rw [run_concat]
    exact (office.run events).completed?_step event completed
  | cutOff cut call present stopped =>
    have after := (office.run events).getElem?_step event present
    rw [← run_concat] at after
    exact .cutOff (cut.concat event) _ after (hasStopped_afterwards stopped event)
  | awaited desk present =>
    -- Its own step completes the call; a lost reply or a caller who leaves cuts it off.
    have after := (office.run events).getElem?_step event present
    rw [← run_concat] at after
    cases event with
    | register | present | disturb => exact .awaited desk after
    | advance other draw =>
      by_cases here : other = number
      · refine .completed desk (completed?_eq_some.mpr ⟨.waiting, ?_⟩)
        simpa [afterwards, here, Call.advance, Registrar.advance, Registrar.conclude] using after
      · exact .awaited desk (by simpa [afterwards, here] using after)
    | lose other cause =>
      by_cases here : other = number
      · subst here
        refine .cutOff (isCutOff_concat present (.lost cause)) _ after ?_
        simp only [afterwards, if_pos]
        exact ⟨rfl, .inr ⟨_, rfl⟩⟩
      · exact .awaited desk (by simpa [afterwards, here] using after)
    | abandon other =>
      by_cases here : other = number
      · subst here
        refine .cutOff (isCutOff_concat present .written) _ after ?_
        simp only [afterwards, if_pos]
        exact ⟨rfl, .inl (Call.abandon_caller _)⟩
      · exact .awaited desk (by simpa [afterwards, here] using after)

theorem exists_former {event : Event} {call : Call}
    (present : (office.step event).calls[number]? = some call) (left : call.caller ≠ .waiting) :
    ∃ former, office.calls[number]? = some former := by
  cases office.step_steps event with
  | quiet keeps rows grows calls =>
    rcases calls number call present with ⟨former, earlier, -⟩ | ⟨-, _, _, _, _, -, rfl⟩
    · exact ⟨former, earlier⟩
    · exact absurd rfl left
  | wrote keeps advances writing inserting writes calls =>
    rw [calls] at present
    rcases getElem?_set_cases present with ⟨rfl, -⟩ | ⟨-, unchanged⟩
    · exact ⟨_, writing⟩
    · exact ⟨_, unchanged⟩

theorem afterwards_of_left {event : Event} {call : Call}
    (left : (office.afterwards event number call).caller = .left) :
    office.afterwards event number call = call ∨
      event = .abandon number ∧
        call = { office.afterwards event number call with caller := .waiting } := by
  cases event with
  | register | present | disturb => exact .inl rfl
  | advance other draw =>
    simp only [afterwards] at left ⊢
    split at left
    · exact absurd left (call.caller_advance_ne_left draw _)
    next elsewhere => exact .inl (if_neg elsewhere)
  | lose other cause =>
    simp only [afterwards] at left ⊢
    split at left
    next here => exact .inl (by rw [if_pos here, Call.lose_of_left left])
    next elsewhere => exact .inl (if_neg elsewhere)
  | abandon other =>
    simp only [afterwards] at left ⊢
    split at left
    next here =>
      subst here
      rw [if_pos rfl]
      exact (Call.abandon_of_left left).imp_right fun waited => ⟨rfl, waited⟩
    next elsewhere => exact .inl (if_neg elsewhere)

theorem isCutOff_of_left (new : office.calls = []) {desk : Nat}
    (present : (office.run events).calls[number]? =
      some ⟨desk, .inserting participant, .left⟩) :
    office.IsCutOff events number participant := by
  induction events using List.reverseRecOn with
  | nil => simp [run, new] at present
  | append_singleton events event ih =>
    rw [run_concat] at present
    obtain ⟨former, before⟩ := exists_former present (by simp)
    have after := (office.run events).getElem?_step event before
    rw [present, Option.some.injEq] at after
    have left : ((office.run events).afterwards event number former).caller = .left := by
      rw [← after]
    rcases afterwards_of_left left with same | ⟨rfl, waited⟩
    · rw [← after] at same
      exact (ih (same ▸ before)).concat event
    · rw [← after] at waited
      exact isCutOff_concat (waited ▸ before) .writing

theorem written_cases (event : Event) {entry : Nat × Row}
    (written : entry ∈ office.written event) :
    ∃ desk caller nonce id participant,
      entry.2 = Row.ofParticipant office.store.cipher nonce id participant ∧
        (office.step event).calls[entry.1]? = some ⟨desk, .inserted participant, caller⟩ ∧
          (caller = .waiting ∨ caller = .forgotten ∧
            office.calls[entry.1]? = some ⟨desk, .inserting participant, .left⟩) := by
  cases office.step_steps event with
  | quiet keeps rows => simp [written_quiet rows] at written
  | @wrote keeps writer id draw call caller participant nonce advances present inserting writes
      calls =>
    subst advances
    rw [written_advance writes.rows, List.mem_singleton] at written
    subst written
    have within := (List.getElem?_eq_some_iff.mp present).1
    have went := office.getElem?_step (.advance writer draw) present
    rw [calls, List.getElem?_set_self within, afterwards, if_pos rfl, Option.some.injEq] at went
    refine ⟨call.desk, caller, nonce.bytes, id, participant, rfl,
      by rw [calls, List.getElem?_set_self within], ?_⟩
    rcases call with ⟨desk, activation, waiting | left | forgotten⟩ <;> cases inserting
    · exact .inl (congrArg Call.caller went)
    · exact .inr ⟨congrArg Call.caller went, present⟩
    · cases congrArg Call.activation went

theorem fates_run (new : office.calls = []) (events : List Event) {entry : Nat × Row}
    (member : entry ∈ office.journal events) :
    ∃ nonce id participant,
      entry.2 = Row.ofParticipant office.store.cipher nonce id participant ∧
        office.Fate events entry.1 participant := by
  induction events using List.reverseRecOn with
  | nil => cases member
  | append_singleton events event ih =>
    rw [journal_concat, List.mem_append] at member
    rcases member with before | written
    · obtain ⟨nonce, id, participant, row, fate⟩ := ih before
      exact ⟨nonce, id, participant, row, fate.concat event⟩
    · obtain ⟨desk, caller, nonce, id, participant, row, present, writer⟩ :=
        written_cases event written
      rw [(office.keeps_run events).cipher] at row
      refine ⟨nonce, id, participant, row, ?_⟩
      rw [← run_concat] at present
      rcases writer with rfl | ⟨rfl, left⟩
      · exact .awaited desk present
      · exact .cutOff ((isCutOff_of_left new left).concat event) _ present ⟨rfl, .inl (by simp)⟩

theorem filterMap_journal_perm {β : Type} (before after : Nat → Option β)
    {journal : List (Nat × Row)} (writers : (journal.map Prod.fst).Nodup) {entry : Nat × Row}
    (member : entry ∈ journal) {value : β} (fresh : before entry.1 = none)
    (given : after entry.1 = some value)
    (others : ∀ number, number ≠ entry.1 → after number = before number) :
    (journal.filterMap fun entry => after entry.1).Perm
      ((journal.filterMap fun entry => before entry.1) ++ [value]) := by
  induction journal with
  | nil => cases member
  | cons head journal ih =>
    rw [List.map_cons, List.nodup_cons] at writers
    rcases List.mem_cons.mp member with rfl | later
    · have same : (journal.filterMap fun other => after other.1) =
          journal.filterMap fun other => before other.1 := by
        refine List.filterMap_congr fun other within => others other.1 fun equal => ?_
        exact writers.1 (equal ▸ List.mem_map_of_mem within)
      simp only [List.filterMap_cons, given, fresh, same]
      exact (List.perm_append_singleton _ _).symm
    · have different : head.1 ≠ entry.1 := fun equal =>
        writers.1 (equal ▸ List.mem_map_of_mem later)
      rw [List.filterMap_cons, List.filterMap_cons, others head.1 different]
      split
      · exact ih writers.2 later
      · exact (ih writers.2 later).cons _

def Confirms (initial : List String) (journal : List (Nat × Row)) (desk : Nat)
    (office : Office) : Prop :=
  (office.desk desk).confirmed.Perm
    (initial ++ (journal.filterMap fun entry => office.completed? entry.1 desk).map
      Participant.email)

theorem Confirms.step {initial : List String} {seeds : List Row} {journal : List (Nat × Row)}
    {desk : Nat} {office : Office} (confirms : office.Confirms initial journal desk)
    (accounted : office.Accounted seeds journal) (event : Event) :
    (office.step event).Confirms initial journal desk := by
  unfold Confirms at confirms ⊢
  cases office.step_marks event with
  | unmarked same kept =>
    simp only [kept]
    rwa [(same desk).confirmed]
  | @marked number place draw participant advances present marked elsewhere calls =>
    have completed := office.completed?_marked present _ calls
    by_cases here : desk = place
    · subst here
      -- The row of this call has no confirmation yet, and no other row gets one.
      obtain ⟨nonce, id, member⟩ := accounted.holders number _ participant present rfl
      have fresh : office.completed? number desk = none := completed?_of_failed present rfl desk
      have given : (office.step event).completed? number desk = some participant := by
        simp [completed]
      have more := filterMap_journal_perm
        (fun other => office.completed? other desk)
        (fun other => (office.step event).completed? other desk)
        accounted.writers member fresh given fun other different => by simp [completed, different]
      have emails := (more.map Participant.email).symm.append_left initial
      rw [List.map_append, ← List.append_assoc] at emails
      rw [marked.confirmed]
      exact (confirms.append_right _).trans emails
    · rw [(elsewhere desk here).confirmed]
      simpa [completed, here] using confirms

theorem confirms_run (store : Store) (desks : Nat → Registrar) (events : List Event) (desk : Nat) :
    ((opened store desks).run events).Confirms (desks desk).confirmed
      ((opened store desks).journal events) desk := by
  induction events using List.reverseRecOn with
  | nil =>
    unfold Confirms
    rw [journal, List.filterMap_nil, List.map_nil, List.append_nil]
    exact .refl _
  | append_singleton events event ih =>
    have stepped := ih.step (accounted_run store desks events) event
    unfold Confirms at stepped ⊢
    rw [run_concat, journal_concat, List.filterMap_append]
    -- A row that has just been written is still without a confirmation.
    have fresh : (((opened store desks).run events).written event).filterMap (fun entry =>
        (((opened store desks).run events).step event).completed? entry.1 desk) = [] := by
      rw [List.filterMap_eq_nil_iff]
      intro entry written
      obtain ⟨place, caller, nonce, id, participant, -, present, -⟩ := written_cases event written
      exact completed?_of_failed present rfl desk
    rwa [fresh, List.append_nil]

def IsIdle (office : Office) : Prop :=
  ∀ call ∈ office.calls, call.caller ≠ .waiting ∨ call.activation.result?.isSome = true

theorem Fate.of_idle (fate : office.Fate events number participant)
    (idle : (office.run events).IsIdle) :
    (∃ desk, (office.run events).completed? number desk = some participant) ∨
      office.IsCutOff events number participant ∧
        ∀ desk, (office.run events).completed? number desk = none := by
  cases fate with
  | awaited desk present =>
    rcases idle _ (List.mem_of_getElem? present) with left | returned
    · exact absurd rfl left
    · cases returned
  | completed desk completed => exact .inl ⟨desk, completed⟩
  | cutOff cut call present stopped =>
    exact .inr ⟨cut, completed?_of_failed present stopped.failed⟩

theorem isPresent_of_incomplete {seeds : List Row} {journal : List (Nat × Row)}
    (accounted : office.Accounted seeds journal) {desk : Nat}
    (remembers : office.Remembers (seeds.map Row.address) desk) {entry : Nat × Row}
    (member : entry ∈ journal) (incomplete : office.completed? entry.1 desk = none) :
    (office.desk desk).isPresent entry.2.address = false := by
  rw [← Bool.not_eq_true, remembers]
  rintro (seeded | ⟨other, participant, completed, same⟩)
  · exact accounted.apart entry member seeded
  · -- Rows with one address are one row, so the call that has completed wrote this one.
    obtain ⟨nonce, id, row⟩ := accounted.row_of_result (result?_of_completed? completed)
    have equal := List.inj_on_of_nodup_map accounted.distinct row member same
    rw [← equal, completed] at incomplete
    cases incomplete

theorem kept_unless_cut_off (store : Store) (desks : Nat → Registrar) (events : List Event)
    (warmed : ∀ desk, ((opened store desks).desk desk).IsWarmed)
    (idle : ((opened store desks).run events).IsIdle) :
    let office := (opened store desks).run events
    let journal := (opened store desks).journal events
    office.store.rows = store.rows ++ journal.map Prod.snd ∧
      (∀ desk, ∀ row ∈ store.rows, (office.desk desk).isPresent row.address = true) ∧
      (∀ desk, (office.desk desk).confirmed.Perm ((desks desk).confirmed ++
        (journal.filterMap fun entry => office.completed? entry.1 desk).map
          Participant.email)) ∧
      ∀ number row, (number, row) ∈ journal →
        ∃ nonce id participant, row = Row.ofParticipant store.cipher nonce id participant ∧
          ((∃ desk, office.completed? number desk = some participant ∧
              (office.desk desk).isPresent row.address = true) ∨
            (opened store desks).IsCutOff events number participant ∧
              ∀ desk, office.completed? number desk = none ∧
                (office.desk desk).isPresent row.address = false) := by
  intro office journal
  have accounted : office.Accounted store.rows journal := accounted_run store desks events
  have remembers (desk : Nat) : office.Remembers store.addresses desk :=
    remembers_run store desks events (warmed desk)
  refine ⟨accounted.rows, ?_, confirms_run store desks events, ?_⟩
  · intro desk row seed
    exact (remembers desk row.address).mpr (.inl (List.mem_map_of_mem seed))
  · intro number row member
    obtain ⟨nonce, id, participant, (rfl : row = _), fate⟩ :=
      fates_run rfl events member
    refine ⟨nonce, id, participant, rfl, ?_⟩
    rcases fate.of_idle idle with ⟨desk, completed⟩ | ⟨cut, incomplete⟩
    · exact .inl ⟨desk, completed, (remembers desk participant.address).mpr
        (.inr ⟨number, participant, completed, rfl⟩)⟩
    · refine .inr ⟨cut, fun desk => ⟨incomplete desk, ?_⟩⟩
      exact isPresent_of_incomplete accounted (remembers desk) member (incomplete desk)

def interruption : List Event :=
  .register 0 ⟨enrolledAt, []⟩ newcomer ::
    .present 0 activatedAt newcomerToken (Token.fingerprint newcomerToken) ::
      (List.replicate 2 (.advance 0 ⟨activatedAt, []⟩) ++
        [.abandon 0, .advance 0 ⟨activatedAt, []⟩])

theorem run_interruption :
    let entered := morningOffice.step (.register 0 ⟨enrolledAt, []⟩ newcomer)
    morningOffice.run interruption =
      (entered.welcome 0 (.lookingUpAddress newcomer, entered.desk 0)).run
        (List.replicate 2 (.advance 0 ⟨activatedAt, []⟩) ++
          [.abandon 0, .advance 0 ⟨activatedAt, []⟩]) := by
  intro entered
  rw [← entered.step_present 0 (authorize_newcomer entered 0 rfl)]
  rfl

theorem isIdle_interruption : (morningOffice.run interruption).IsIdle := by
  rw [run_interruption]
  intro call member
  obtain rfl := List.mem_singleton.mp member
  exact .inl (by simp)

-- Nothing is under way, and yet a stored participant is not in the index and gets no confirmation.
theorem newcomer_lost_by_interruption :
    (morningOffice.desk 0).IsWarmed ∧ (morningOffice.run interruption).IsIdle ∧
      (morningOffice.run interruption).store.addresses = ["root", "ann"] ∧
      ((morningOffice.run interruption).desk 0).isPresent "ann" = false ∧
      ((morningOffice.run interruption).desk 0).confirmed = [] := by
  refine ⟨isWarmed_morningDesk 0, isIdle_interruption, ?_⟩
  rw [run_interruption]
  exact ⟨rfl, rfl, rfl⟩

theorem newcomer_cut_off :
    ∃ number row participant, (number, row) ∈ morningOffice.journal interruption ∧
      row.address = "ann" ∧ morningOffice.IsCutOff interruption number participant := by
  obtain ⟨rows, -, -, fates⟩ := kept_unless_cut_off morningStore (fun _ => morningDesk)
    interruption isWarmed_morningDesk isIdle_interruption
  have calls : (morningOffice.run interruption).calls = [⟨0, .inserted newParticipant, .forgotten⟩] := by
    rw [run_interruption]
    rfl
  have stored : "ann" ∈ (morningOffice.run interruption).store.rows.map Row.address := by
    rw [run_interruption]
    exact List.mem_cons_of_mem "root" List.mem_cons_self
  change "ann" ∈ (((opened morningStore fun _ => morningDesk).run interruption).store.rows.map
    Row.address) at stored
  rw [rows, List.map_append, List.mem_append] at stored
  rcases stored with seeded | written
  · exact absurd (List.mem_singleton.mp seeded) (by decide)
  · obtain ⟨row, member, address⟩ := List.mem_map.mp written
    obtain ⟨⟨number, written⟩, entry, rfl⟩ := List.mem_map.mp member
    obtain ⟨nonce, id, participant, -, ⟨desk, completed, -⟩ | ⟨cut, -⟩⟩ := fates number _ entry
    · -- The only call there is has not completed.
      change (morningOffice.run interruption).completed? number desk = _ at completed
      obtain ⟨caller, present⟩ := completed?_eq_some.mp completed
      rw [calls] at present
      cases number <;> cases present
    · exact ⟨number, _, participant, entry, address, cut⟩

end Office

end Enrolment
