import Enrolment.Proofs.Activation.Office

set_option autoImplicit false

namespace Enrolment

def Notification.confirmed? : Notification → Option String
  | .confirmation contact => some contact
  | .activationLink .. => none

namespace Registrar

def confirmed (registrar : Registrar) : List String :=
  registrar.outbox.pending.filterMap Notification.confirmed?

theorem confirmed_posted (registrar : Registrar) (notification : Notification) :
    (registrar.posted notification).confirmed =
      registrar.confirmed ++ notification.confirmed?.toList := by
  simp only [confirmed, posted, Outbox.post, List.filterMap_append]
  cases notification <;> rfl

def Activation.succeeded? : Activation → Option Participant
  | .finished (.ok participant) => some participant
  | _ => none

theorem Activation.succeeded?_eq_some {activation : Activation} {participant : Participant} :
    activation.succeeded? = some participant ↔ activation = .finished (.ok participant) := by
  cases activation with
  | finished result => cases result <;> simp [succeeded?]
  | lookingUpAddress | lookingUpSponsor | inserting | inserted => simp [succeeded?]

structure Unmarked (before after : Registrar) : Prop where
  presence : after.presence = before.presence
  confirmed : after.confirmed = before.confirmed

structure Marked (participant : Participant) (before after : Registrar) : Prop where
  presence : after.presence = before.presence.add participant.address participant.activatedAt
  confirmed : after.confirmed = before.confirmed ++ [participant.email]

inductive Marks (before : Registrar) : Activation → Activation → Registrar → Prop
  | unmarked {activation next : Activation} {after : Registrar} (same : before.Unmarked after)
      (succeeded : next.succeeded? = activation.succeeded?) : Marks before activation next after
  | marked {participant : Participant} {after : Registrar}
      (marked : before.Marked participant after) :
      Marks before (.inserted participant) (.finished (.ok participant)) after

theorem unmarked_register (registrar : Registrar) (draw : Draw) (claims : Claims) :
    registrar.Unmarked (registrar.register draw claims).2 := by
  unfold register
  split
  · split
    · -- A link is posted, which is no confirmation.
      exact ⟨rfl, (registrar.confirmed_posted _).trans (List.append_nil _)⟩
    · exact ⟨rfl, rfl⟩
  · exact ⟨rfl, rfl⟩

theorem beginActivation_marks (registrar : Registrar) (now : Instant)
    (token fingerprint : String) :
    registrar.Unmarked (registrar.beginActivation now token fingerprint).2 ∧
      (registrar.beginActivation now token fingerprint).1.succeeded? = none := by
  rcases registrar.beginActivation_cases now token fingerprint with
    ⟨claims, -, begun⟩ | ⟨error, begun⟩
  · rw [begun]
    exact ⟨⟨rfl, rfl⟩, rfl⟩
  · rw [begun]
    exact ⟨⟨rfl, rfl⟩, rfl⟩

theorem advance_marks (registrar : Registrar) (draw : Draw) (activation : Activation) :
    registrar.Marks activation (registrar.advance draw activation).1
      (registrar.advance draw activation).2 := by
  cases activation with
  | lookingUpAddress claims =>
    simp only [advance]
    split <;> exact .unmarked ⟨rfl, rfl⟩ rfl
  | lookingUpSponsor claims =>
    simp only [advance]
    split <;> exact .unmarked ⟨rfl, rfl⟩ rfl
  | inserting participant =>
    simp only [advance]
    split <;> exact .unmarked ⟨rfl, rfl⟩ rfl
  | inserted participant => exact .marked ⟨rfl, registrar.confirmed_posted _⟩
  | finished result => exact .unmarked ⟨rfl, rfl⟩ rfl

theorem finishStatement_marks (registrar : Registrar) (draw : Draw) (activation : Activation) :
    registrar.Unmarked (registrar.finishStatement draw activation).2 ∧
      (registrar.finishStatement draw activation).1.succeeded? = activation.succeeded? := by
  cases activation with
  | inserting participant =>
    simp only [finishStatement]
    split <;> exact ⟨⟨rfl, rfl⟩, rfl⟩
  | lookingUpAddress | lookingUpSponsor | inserted | finished => exact ⟨⟨rfl, rfl⟩, rfl⟩

theorem lose_unmarked (cause : Cause) (registrar : Registrar) (activation : Activation) :
    registrar.Unmarked (registrar.lose cause activation).2 ∧
      (registrar.lose cause activation).1.succeeded? = activation.succeeded? := by
  cases activation with
  | lookingUpAddress | lookingUpSponsor | inserting | inserted | finished => exact ⟨⟨rfl, rfl⟩, rfl⟩

end Registrar

namespace Call

def completed? (desk : Nat) (call : Call) : Option Participant :=
  if call.desk = desk then call.activation.succeeded? else none

inductive Marks (before : Registrar) : Call → Call → Registrar → Prop
  | unmarked {call next : Call} {after : Registrar} (same : before.Unmarked after)
      (completed : ∀ desk, next.completed? desk = call.completed? desk) :
      Marks before call next after
  | marked {desk : Nat} {participant : Participant} {after : Registrar}
      (marked : before.Marked participant after) :
      Marks before ⟨desk, .inserted participant, .waiting⟩
        ⟨desk, .finished (.ok participant), .waiting⟩ after

theorem Marks.of_unmarked {before after : Registrar} {activation next : Registrar.Activation}
    (unmarked : before.Unmarked after ∧ next.succeeded? = activation.succeeded?) (desk : Nat)
    (caller later : Caller) :
    Marks before ⟨desk, activation, caller⟩ ⟨desk, next, later⟩ after :=
  .unmarked unmarked.1 fun other => by simp only [completed?, unmarked.2]

theorem advance_marks (registrar : Registrar) (draw : Draw) (call : Call) :
    Marks registrar call (call.advance draw registrar).1 (call.advance draw registrar).2 := by
  rcases call with ⟨desk, activation, waiting | left | forgotten⟩
  · have step := registrar.advance_marks draw activation
    change Marks registrar _ ⟨desk, (registrar.advance draw activation).1, .waiting⟩
      (registrar.advance draw activation).2
    generalize registrar.advance draw activation = result at step
    rcases result with ⟨next, after⟩
    cases step with
    | unmarked same succeeded => exact .of_unmarked ⟨same, succeeded⟩ _ _ _
    | marked marked => exact .marked marked
  · exact .of_unmarked (registrar.finishStatement_marks draw activation) _ _ _
  · exact .unmarked ⟨rfl, rfl⟩ fun _ => rfl

theorem lose_unmarked (registrar : Registrar) (cause : Cause) (call : Call) :
    registrar.Unmarked (call.lose cause registrar).2 ∧
      ∀ desk, (call.lose cause registrar).1.completed? desk = call.completed? desk := by
  rcases call with ⟨desk, activation, waiting | left | forgotten⟩
  · have ⟨same, succeeded⟩ := registrar.lose_unmarked cause activation
    exact ⟨same, fun _ => by simp only [completed?, lose, succeeded]⟩
  all_goals exact ⟨⟨rfl, rfl⟩, fun _ => rfl⟩

theorem completed?_abandon (call : Call) (desk : Nat) :
    call.abandon.completed? desk = call.completed? desk := by
  rw [completed?, completed?, desk_abandon, activation_abandon]

end Call

namespace Office

def completed? (office : Office) (number desk : Nat) : Option Participant :=
  office.calls[number]?.bind (Call.completed? desk)

theorem completed?_eq_some {office : Office} {number desk : Nat} {participant : Participant} :
    office.completed? number desk = some participant ↔
      ∃ caller, office.calls[number]? = some ⟨desk, .finished (.ok participant), caller⟩ := by
  constructor
  · intro completed
    obtain ⟨⟨place, activation, caller⟩, present, succeeded⟩ := Option.bind_eq_some_iff.mp completed
    obtain ⟨rfl, same⟩ := Option.ite_none_right_eq_some.mp succeeded
    obtain rfl : activation = _ := Registrar.Activation.succeeded?_eq_some.mp same
    exact ⟨caller, present⟩
  · rintro ⟨caller, present⟩
    simp [completed?, present, Call.completed?, Registrar.Activation.succeeded?]

theorem completed?_of_failed {office : Office} {number : Nat} {call : Call}
    (present : office.calls[number]? = some call) (failed : call.activation.succeeded? = none)
    (desk : Nat) : office.completed? number desk = none := by
  rw [completed?, present, Option.bind_some, Call.completed?, failed, ite_self]

inductive Marks (office : Office) (event : Event) (after : Office) : Prop
  | unmarked (same : ∀ desk, (office.desk desk).Unmarked (after.desk desk))
      (completed : ∀ number desk, after.completed? number desk = office.completed? number desk)
  | marked {number desk : Nat} {draw : Draw} {participant : Participant}
      (advances : event = .advance number draw)
      (present : office.calls[number]? = some ⟨desk, .inserted participant, .waiting⟩)
      (marked : (office.desk desk).Marked participant (after.desk desk))
      (elsewhere : ∀ other, other ≠ desk → (office.desk other).Unmarked (after.desk other))
      (calls : after.calls =
        office.calls.set number ⟨desk, .finished (.ok participant), .waiting⟩)

variable (office : Office)

@[simp] theorem desk_seat (number : Nat) (registrar : Registrar) (calls : List Call) :
    Office.desk { office.seat number registrar with calls } number = registrar := by
  simp [desk, seat]

theorem unmarked_seat {number other : Nat} (registrar : Registrar) (calls : List Call)
    (different : other ≠ number) :
    (office.desk other).Unmarked
      (Office.desk { office.seat number registrar with calls } other) := by
  constructor <;> simp [desk, seat, different, Registrar.confirmed]

theorem unmarked_seats {number : Nat} {registrar : Registrar} (calls : List Call)
    (same : (office.desk number).Unmarked registrar) (other : Nat) :
    (office.desk other).Unmarked
      (Office.desk { office.seat number registrar with calls } other) := by
  by_cases here : other = number
  · subst here
    rwa [desk_seat]
  · exact office.unmarked_seat registrar calls here

theorem completed?_set {number : Nat} {former call : Call}
    (present : office.calls[number]? = some former)
    (same : ∀ desk, call.completed? desk = former.completed? desk) (after : Office)
    (calls : after.calls = office.calls.set number call) (other desk : Nat) :
    after.completed? other desk = office.completed? other desk := by
  have within : number < office.calls.length := (List.getElem?_eq_some_iff.mp present).1
  rw [completed?, completed?, calls]
  by_cases here : number = other
  · subst here
    rw [List.getElem?_set_self within, present]
    exact same desk
  · rw [List.getElem?_set_ne here]

theorem completed?_marked {number desk : Nat} {participant : Participant}
    (present : office.calls[number]? = some ⟨desk, .inserted participant, .waiting⟩)
    (after : Office)
    (calls : after.calls = office.calls.set number ⟨desk, .finished (.ok participant), .waiting⟩)
    (other place : Nat) :
    after.completed? other place =
      if other = number ∧ place = desk then some participant
      else office.completed? other place := by
  have within : number < office.calls.length := (List.getElem?_eq_some_iff.mp present).1
  rw [completed?, completed?, calls]
  by_cases here : other = number
  · subst here
    rw [List.getElem?_set_self within, present]
    by_cases there : place = desk
    · simp [Call.completed?, there, Registrar.Activation.succeeded?]
    · simp [Call.completed?, there, Ne.symm there]
  · rw [List.getElem?_set_ne (Ne.symm here), if_neg fun both => here both.1]

theorem proceed_advance_marks (number : Nat) (draw : Draw) :
    office.Marks (.advance number draw) (office.proceed number (Call.advance draw)) := by
  unfold proceed
  split
  next call present =>
    have step := call.advance_marks (office.desk call.desk) draw
    generalize call.advance draw (office.desk call.desk) = result at step
    rcases result with ⟨next, registrar⟩
    rcases call with ⟨desk, activation, caller⟩
    simp only at step ⊢
    cases step with
    | unmarked same completed =>
      exact .unmarked (office.unmarked_seats _ same) (office.completed?_set present completed _ rfl)
    | marked marked =>
      refine .marked rfl present ?_ (fun other => office.unmarked_seat _ _) rfl
      rwa [desk_seat]
  next => exact .unmarked (fun _ => ⟨rfl, rfl⟩) fun _ _ => rfl

theorem proceed_lose_marks (number : Nat) (cause : Cause) :
    office.Marks (.lose number cause) (office.proceed number (Call.lose cause)) := by
  unfold proceed
  split
  next call present =>
    have ⟨same, completed⟩ := call.lose_unmarked (office.desk call.desk) cause
    exact .unmarked (office.unmarked_seats _ same) (office.completed?_set present completed _ rfl)
  next => exact .unmarked (fun _ => ⟨rfl, rfl⟩) fun _ _ => rfl

theorem step_marks (event : Event) : office.Marks event (office.step event) := by
  cases event with
  | register desk draw claims =>
    exact .unmarked (office.unmarked_seats _ ((office.desk desk).unmarked_register draw claims))
      fun _ _ => rfl
  | present desk now token fingerprint =>
    obtain ⟨same, fresh⟩ := (office.desk desk).beginActivation_marks now token fingerprint
    refine .unmarked (office.unmarked_seats _ same) fun number other => ?_
    -- The call that is opened has not succeeded.
    rw [completed?, completed?, step, welcome]
    by_cases earlier : number < office.calls.length
    · rw [List.getElem?_append_left earlier]
    · have later := Nat.le_of_not_lt earlier
      rw [List.getElem?_append_right later, List.getElem?_eq_none later]
      cases number - office.calls.length with
      | zero => simp [Call.completed?, fresh]
      | succ => rfl
  | advance number draw => exact office.proceed_advance_marks number draw
  | lose number cause => exact office.proceed_lose_marks number cause
  | abandon number =>
    refine .unmarked (fun _ => ⟨rfl, rfl⟩) fun other desk => ?_
    simp only [completed?, step, List.getElem?_modify]
    cases office.calls[other]? with
    | none => rfl
    | some call =>
      simp only [Option.map_eq_map, Option.map_some, Option.bind_some]
      split
      · exact call.completed?_abandon desk
      · rfl
  | disturb failing hidden online => exact .unmarked (fun _ => ⟨rfl, rfl⟩) fun _ _ => rfl

end Office

end Enrolment
