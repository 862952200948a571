import Enrolment.Proofs.Activation.Interrupted

set_option autoImplicit false

namespace Enrolment

open Registrar (Activation)

namespace Registrar

-- Links, notifications and counters may differ, on which no activation depends.
structure SameRecords (left right : Registrar) : Prop where
  tokens : left.tokens = right.tokens
  store : left.store = right.store
  presence : left.presence = right.presence

theorem SameRecords.refl (registrar : Registrar) : registrar.SameRecords registrar :=
  ⟨rfl, rfl, rfl⟩

theorem SameRecords.trans {left middle right : Registrar} (first : left.SameRecords middle)
    (second : middle.SameRecords right) : left.SameRecords right :=
  ⟨first.tokens.trans second.tokens, first.store.trans second.store,
    first.presence.trans second.presence⟩

section Records

variable {left right : Registrar} (same : left.SameRecords right)
include same

theorem SameRecords.register (draw : Draw) (claims : Claims) :
    (left.register draw claims).2.SameRecords (right.register draw claims).2 := by
  obtain ⟨tokens, base, store, presence, outbox, tally⟩ := left
  obtain ⟨rfl, rfl, rfl⟩ := same
  simp only [Registrar.register]
  split
  · split <;> exact ⟨rfl, rfl, rfl⟩
  · exact ⟨rfl, rfl, rfl⟩

theorem SameRecords.beginActivation (now : Instant) (token fingerprint : String) :
    (left.beginActivation now token fingerprint).1 =
        (right.beginActivation now token fingerprint).1 ∧
      (left.beginActivation now token fingerprint).2.SameRecords
        (right.beginActivation now token fingerprint).2 := by
  have authorized : left.authorize now token fingerprint =
      right.authorize now token fingerprint := by
    simp only [Registrar.authorize, same.tokens]
  simp only [Registrar.beginActivation, authorized]
  split
  · exact ⟨rfl, same⟩
  · exact ⟨rfl, same.tokens, same.store, same.presence⟩

theorem SameRecords.advance (draw : Draw) (activation : Activation) :
    (left.advance draw activation).1 = (right.advance draw activation).1 ∧
      (left.advance draw activation).2.SameRecords (right.advance draw activation).2 := by
  obtain ⟨tokens, base, store, presence, outbox, tally⟩ := left
  obtain ⟨rfl, rfl, rfl⟩ := same
  cases activation with
  | lookingUpAddress | lookingUpSponsor | inserting =>
    simp only [Registrar.advance]
    split <;> exact ⟨rfl, rfl, rfl, rfl⟩
  | inserted | finished => exact ⟨rfl, rfl, rfl, rfl⟩

theorem SameRecords.finishStatement (draw : Draw) (activation : Activation) :
    (left.finishStatement draw activation).1 = (right.finishStatement draw activation).1 ∧
      (left.finishStatement draw activation).2.SameRecords
        (right.finishStatement draw activation).2 := by
  obtain ⟨tokens, base, store, presence, outbox, tally⟩ := left
  obtain ⟨rfl, rfl, rfl⟩ := same
  cases activation with
  | inserting =>
    simp only [Registrar.finishStatement]
    split <;> exact ⟨rfl, rfl, rfl, rfl⟩
  | lookingUpAddress | lookingUpSponsor | inserted | finished => exact ⟨rfl, rfl, rfl, rfl⟩

theorem SameRecords.call (draw : Draw) (call : Call) :
    (call.advance draw left).1 = (call.advance draw right).1 ∧
      (call.advance draw left).2.SameRecords (call.advance draw right).2 := by
  rcases call with ⟨desk, activation, waiting | left | forgotten⟩
  · have advanced := same.advance draw activation
    exact ⟨congrArg (Call.mk desk · .waiting) advanced.1, advanced.2⟩
  · have finished := same.finishStatement draw activation
    exact ⟨congrArg (Call.mk desk · .forgotten) finished.1, finished.2⟩
  · exact ⟨rfl, same⟩

end Records

end Registrar

-- What activations see of a server: its registrar, and their calls by the numbers of the requests.
structure Front where
  registrar : Registrar
  calls : List (Nat × Call)
  accepted : Nat

namespace Front

-- An office whose first desk is the registrar, with all its calls there. Those of the front have
-- places of their own; all others have returned, or nobody waits for them.
structure Stands (front : Front) (office : Office) (place : Nat → Nat) : Prop where
  same : (office.desk 0).SameRecords front.registrar
  apart : (front.calls.map fun entry => place entry.1).Nodup
  numbered : ∀ entry ∈ front.calls, entry.1 < front.accepted
  seated : ∀ entry ∈ front.calls, office.calls[place entry.1]? = some entry.2
  together : ∀ call ∈ office.calls, call.desk = 0
  known : ∀ position call, office.calls[position]? = some call → call.caller = .waiting →
    call.activation.result? = none →
      ∃ number, (number, call) ∈ front.calls ∧ place number = position

-- What an office can do to stand for another front.
def Reaches (before after : Front) : Prop :=
  ∀ office place, before.Stands office place →
    ∃ events later, after.Stands (Office.run office events) later

theorem Reaches.refl (front : Front) : front.Reaches front :=
  fun _ place stands => ⟨[], place, stands⟩

theorem Reaches.trans {before middle after : Front} (first : before.Reaches middle)
    (second : middle.Reaches after) : before.Reaches after := by
  intro office place stands
  obtain ⟨earlier, shifted, stands⟩ := first office place stands
  obtain ⟨later, placed, stands⟩ := second _ shifted stands
  exact ⟨earlier ++ later, placed, by rwa [office.run_append]⟩

variable {registrar later : Registrar} {number accepted : Nat} {call : Call}
  {calls : List (Nat × Call)}

theorem reaches_same {before after : Front} (same : before.registrar.SameRecords after.registrar)
    (calls : before.calls.Perm after.calls) (accepted : before.accepted ≤ after.accepted) :
    before.Reaches after := by
  intro office place stands
  refine ⟨[], place, stands.same.trans same, ?_, ?_, ?_, stands.together, ?_⟩
  · exact (calls.map _).nodup_iff.mp stands.apart
  · exact fun entry member =>
      Nat.lt_of_lt_of_le (stands.numbered entry (calls.mem_iff.mpr member)) accepted
  · exact fun entry member => stands.seated entry (calls.mem_iff.mpr member)
  · intro position call present waiting unsettled
    obtain ⟨number, member, placed⟩ := stands.known position call present waiting unsettled
    exact ⟨number, calls.mem_iff.mp member, placed⟩

-- A call that has returned, or that nobody waits for, may be forgotten.
theorem reaches_tail (ended : call.caller = .waiting → call.activation.result? ≠ none) :
    Reaches ⟨registrar, (number, call) :: calls, accepted⟩ ⟨registrar, calls, accepted⟩ := by
  intro office place stands
  have inside {entry : Nat × Call} (member : entry ∈ calls) : entry ∈ (number, call) :: calls :=
    List.mem_cons_of_mem _ member
  refine ⟨[], place, stands.same, (List.nodup_cons.mp stands.apart).2,
    fun entry member => stands.numbered entry (inside member),
    fun entry member => stands.seated entry (inside member), stands.together, ?_⟩
  intro position other present waiting unsettled
  obtain ⟨known, member, placed⟩ := stands.known position other present waiting unsettled
  rcases List.mem_cons.mp member with same | behind
  · obtain ⟨rfl, rfl⟩ := Prod.mk.inj same
    exact absurd unsettled (ended waiting)
  · exact ⟨known, behind, placed⟩

theorem Stands.set {office after : Office} {place : Nat → Nat}
    (stands : Stands ⟨registrar, (number, call) :: calls, accepted⟩ office place) {next : Call}
    (desk : next.desk = 0) (moved : after.calls = office.calls.set (place number) next)
    (same : (after.desk 0).SameRecords later) :
    Stands ⟨later, (number, next) :: calls, accepted⟩ after place := by
  have present : office.calls[place number]? = some call := stands.seated _ List.mem_cons_self
  have within : place number < office.calls.length := (List.getElem?_eq_some_iff.mp present).1
  have apart := List.nodup_cons.mp stands.apart
  have elsewhere {entry : Nat × Call} (member : entry ∈ calls) : place entry.1 ≠ place number :=
    fun equal => apart.1 (List.mem_map.mpr ⟨entry, member, equal⟩)
  refine ⟨same, stands.apart, ?_, ?_, ?_, ?_⟩
  · intro entry member
    rcases List.mem_cons.mp member with rfl | behind
    · exact stands.numbered (number, call) List.mem_cons_self
    · exact stands.numbered entry (List.mem_cons_of_mem _ behind)
  · intro entry member
    rw [moved]
    rcases List.mem_cons.mp member with rfl | behind
    · exact List.getElem?_set_self within
    · rw [List.getElem?_set_ne (elsewhere behind).symm]
      exact stands.seated entry (List.mem_cons_of_mem _ behind)
  · intro other member
    rw [moved] at member
    rcases List.mem_or_eq_of_mem_set member with former | rfl
    · exact stands.together other former
    · exact desk
  · intro position other found waiting unsettled
    rw [moved] at found
    rcases Office.getElem?_set_cases found with ⟨rfl, rfl⟩ | ⟨different, unchanged⟩
    · exact ⟨number, List.mem_cons_self, rfl⟩
    · obtain ⟨known, member, placed⟩ := stands.known position other unchanged waiting unsettled
      rcases List.mem_cons.mp member with equal | behind
      · rw [(Prod.mk.inj equal).1] at placed
        exact absurd placed.symm different
      · exact ⟨known, List.mem_cons_of_mem _ behind, placed⟩

theorem desk_seat (office : Office) (registrar : Registrar) (calls : List Call) :
    Office.desk { office.seat 0 registrar with calls } 0 = registrar := by
  simp [Office.desk, Office.seat]

theorem reaches_advance (draw : Draw) (registrar : Registrar) (number : Nat) (call : Call)
    (calls : List (Nat × Call)) (accepted : Nat) :
    Reaches ⟨registrar, (number, call) :: calls, accepted⟩
      ⟨(call.advance draw registrar).2, (number, (call.advance draw registrar).1) :: calls,
        accepted⟩ := by
  intro office place stands
  have present : office.calls[place number]? = some call := stands.seated _ List.mem_cons_self
  have desk : call.desk = 0 := stands.together call (List.mem_of_getElem? present)
  have advanced := stands.same.call draw call
  have stepped : office.step (.advance (place number) draw) =
      { office.seat 0 (call.advance draw (office.desk 0)).2 with
        calls := office.calls.set (place number) (call.advance draw (office.desk 0)).1 } := by
    simp only [Office.step, Office.proceed, present, desk]
  refine ⟨[.advance (place number) draw], place, stands.set ?_ ?_ ?_⟩
  · rw [call.desk_advance, desk]
  · rw [Office.run, List.foldl_cons, stepped, advanced.1]
    rfl
  · rw [Office.run, List.foldl_cons, stepped, List.foldl_nil, desk_seat]
    exact advanced.2

theorem reaches_abandon (registrar : Registrar) (number : Nat) (call : Call)
    (calls : List (Nat × Call)) (accepted : Nat) :
    Reaches ⟨registrar, (number, call) :: calls, accepted⟩
      ⟨registrar, (number, call.abandon) :: calls, accepted⟩ := by
  intro office place stands
  have present : office.calls[place number]? = some call := stands.seated _ List.mem_cons_self
  have desk : call.desk = 0 := stands.together call (List.mem_of_getElem? present)
  refine ⟨[.abandon (place number)], place, stands.set ?_ ?_ stands.same⟩
  · rw [call.desk_abandon, desk]
  · show office.calls.modify (place number) Call.abandon = _
    rw [List.modify_eq_set_getElem?, present]
    rfl

theorem reaches_register (draw : Draw) (claims : Claims) :
    Reaches ⟨registrar, calls, accepted⟩ ⟨(registrar.register draw claims).2, calls, accepted⟩ := by
  intro office place stands
  refine ⟨[.register 0 draw claims], place, ?_, stands.apart, stands.numbered, stands.seated,
    stands.together, stands.known⟩
  show Registrar.SameRecords (Office.desk { office.seat 0 _ with calls := office.calls } 0) _
  rw [desk_seat]
  exact stands.same.register draw claims

theorem reaches_present (registrar : Registrar) (calls : List (Nat × Call)) (accepted : Nat)
    (now : Instant) (token fingerprint : String) :
    Reaches ⟨registrar, calls, accepted⟩
      ⟨(registrar.beginActivation now token fingerprint).2,
        (accepted, ⟨0, (registrar.beginActivation now token fingerprint).1, .waiting⟩) :: calls,
        accepted + 1⟩ := by
  intro office place stands
  obtain ⟨begun, same⟩ := stands.same.beginActivation now token fingerprint
  let position := office.calls.length
  let opened : Call := ⟨0, (registrar.beginActivation now token fingerprint).1, .waiting⟩
  let after := office.step (.present 0 now token fingerprint)
  have added : after.calls = office.calls ++ [opened] := by
    show office.calls ++ [_] = _
    rw [begun]
  -- The new call sits behind all others, so the former ones keep their places.
  have kept {entry : Nat × Call} (member : entry ∈ calls) :
      Function.update place accepted position entry.1 = place entry.1 :=
    Function.update_of_ne (Nat.ne_of_lt (stands.numbered entry member)) _ _
  have before {entry : Nat × Call} (member : entry ∈ calls) : place entry.1 < position :=
    (List.getElem?_eq_some_iff.mp (stands.seated entry member)).1
  refine ⟨[.present 0 now token fingerprint], Function.update place accepted position,
    ?_, ?_, ?_, ?_, ?_, ?_⟩
  · show Registrar.SameRecords (Office.desk { office.seat 0 _ with calls := _ } 0) _
    rw [desk_seat]
    exact same
  · rw [List.map_cons, Function.update_self, List.nodup_cons, List.map_congr_left fun _ => kept]
    refine ⟨fun taken => ?_, stands.apart⟩
    obtain ⟨entry, member, equal⟩ := List.mem_map.mp taken
    exact absurd equal (Nat.ne_of_lt (before member))
  · intro entry member
    rcases List.mem_cons.mp member with rfl | former
    · exact Nat.lt_succ_self _
    · exact Nat.lt_succ_of_lt (stands.numbered entry former)
  · intro entry member
    show after.calls[_]? = some entry.2
    rw [added]
    rcases List.mem_cons.mp member with rfl | former
    · rw [Function.update_self]
      exact List.getElem?_concat_length
    · rw [kept former, List.getElem?_append_left (before former)]
      exact stands.seated entry former
  · intro other member
    have member : other ∈ after.calls := member
    rw [added, List.mem_append, List.mem_singleton] at member
    rcases member with former | rfl
    · exact stands.together other former
    · rfl
  · intro other call found waiting unsettled
    have found : after.calls[other]? = some call := found
    rw [added] at found
    by_cases earlier : other < position
    · rw [List.getElem?_append_left earlier] at found
      obtain ⟨known, member, placed⟩ := stands.known other call found waiting unsettled
      exact ⟨known, List.mem_cons_of_mem _ member, (kept member).trans placed⟩
    · obtain ⟨within, -⟩ := List.getElem?_eq_some_iff.mp found
      rw [List.length_append, List.length_singleton] at within
      obtain rfl : other = position := by omega
      rw [List.getElem?_concat_length, Option.some.injEq] at found
      subst found
      exact ⟨accepted, List.mem_cons_self, Function.update_self _ _ _⟩

theorem reaches_disturb (registrar : Registrar) (calls : List (Nat × Call)) (accepted : Nat)
    (failing : List Statement) (hidden : List String) :
    Reaches ⟨registrar, calls, accepted⟩
      ⟨{ registrar with store := { registrar.store with failing, hidden } }, calls, accepted⟩ := by
  intro office place stands
  have store : office.store = registrar.store := stands.same.store
  refine ⟨[.disturb failing hidden office.store.online], place,
    ⟨stands.same.tokens, ?_, stands.same.presence⟩, stands.apart, stands.numbered, stands.seated,
    stands.together, stands.known⟩
  show ({ office.store with failing, hidden, online := office.store.online } : Store) = _
  rw [store]

theorem stands_opened (registrar : Registrar) (accepted : Nat) :
    Stands ⟨registrar, [], accepted⟩ (Office.opened registrar.store fun _ => registrar) id where
  same := .refl registrar
  apart := .nil
  numbered entry member := absurd member List.not_mem_nil
  seated entry member := absurd member List.not_mem_nil
  together call member := absurd member List.not_mem_nil
  known position call present := by simp [Office.opened] at present

end Front

end Enrolment
