import Enrolment.Proofs.Limiter.Sweeping

set_option autoImplicit false

namespace Enrolment.Limiter

variable {ν : Type} [Amount ν]

def Event.concerns (client : String) : Event → Bool
  | call caller _ => caller == client
  | sweep _ _ => true

def happen (limiter : Limiter ν) : Event → Limiter ν
  | .call client now => (limiter.allow client now).2
  | .sweep idle now => (limiter.sweep idle now).2

def after (limiter : Limiter ν) (events : List Event) : Limiter ν := events.foldl happen limiter

def replyTo? (client : String) (limiter : Limiter ν) : Event → Option Bool
  | .call caller now => if caller = client then some (limiter.allow client now).1 else none
  | .sweep _ _ => none

def answersTo (client : String) : Limiter ν → List Event → List Bool
  | _, [] => []
  | limiter, event :: events =>
    (limiter.replyTo? client event).toList ++ answersTo client (limiter.happen event) events

theorem listsOnce_happen {limiter : Limiter ν} (once : limiter.ListsOnce) (event : Event) :
    (limiter.happen event).ListsOnce := by
  cases event with
  | call client now => exact listsOnce_allow once client now
  | sweep idle now => exact listsOnce_sweep once idle now

structure Alike (client : String) (left right : Limiter ν) : Prop where
  quota : left.quota = right.quota
  bucket : left.bucket? client = right.bucket? client

namespace Alike

variable {client : String} {left right : Limiter ν}

omit [Amount ν] in
theorem isTracked (alike : Alike client left right) :
    left.isTracked client = right.isTracked client := by
  simp only [Limiter.isTracked, alike.bucket]

theorem allow (alike : Alike client left right) (now : Nat) :
    (left.allow client now).1 = (right.allow client now).1 := by
  simp only [Limiter.allow, alike.bucket, alike.quota]

theorem foreign (alike : Alike client left right) {event : Event}
    (foreign : event.concerns client = false) :
    left.replyTo? client event = none ∧ Alike client (left.happen event) right := by
  cases event with
  | sweep idle now => cases foreign
  | call caller now =>
    have other : caller ≠ client := by simpa [Event.concerns] using foreign
    constructor
    · simp [replyTo?, other]
    · constructor
      case quota => exact alike.quota
      case bucket =>
        rw [happen, bucket?_allow, if_neg other.symm]
        exact alike.bucket

theorem own (alike : Alike client left right) (leftOnce : left.ListsOnce)
    (rightOnce : right.ListsOnce) {event : Event} (own : event.concerns client = true) :
    left.replyTo? client event = right.replyTo? client event ∧
      Alike client (left.happen event) (right.happen event) := by
  cases event with
  | call caller now =>
    obtain rfl : caller = client := by simpa [Event.concerns] using own
    constructor
    · simp [replyTo?, alike.allow]
    · constructor
      case quota => exact alike.quota
      case bucket => simp [happen, bucket?_allow, alike.bucket, alike.quota]
  | sweep idle now =>
    constructor
    · rfl
    · constructor
      case quota => exact alike.quota
      case bucket =>
        rw [happen, happen, bucket?_sweep leftOnce, bucket?_sweep rightOnce, alike.bucket]

theorem run (alike : Alike client left right) (leftOnce : left.ListsOnce)
    (rightOnce : right.ListsOnce) (events : List Event) :
    answersTo client left events = answersTo client right (events.filter (Event.concerns client)) ∧
      Alike client (left.after events) (right.after (events.filter (Event.concerns client))) := by
  induction events generalizing left right with
  | nil => exact ⟨rfl, alike⟩
  | cons event events ih =>
    cases concerns : event.concerns client with
    | false =>
      obtain ⟨silent, alike⟩ := alike.foreign concerns
      obtain ⟨answers, after⟩ := ih alike (listsOnce_happen leftOnce event) rightOnce
      rw [List.filter_cons_of_neg (ne_true_of_eq_false concerns)]
      refine ⟨?_, after⟩
      rw [answersTo, silent, answers]
      rfl
    | true =>
      obtain ⟨reply, alike⟩ := alike.own leftOnce rightOnce concerns
      obtain ⟨answers, after⟩ := ih alike (listsOnce_happen leftOnce event)
        (listsOnce_happen rightOnce event)
      rw [List.filter_cons_of_pos concerns]
      refine ⟨?_, after⟩
      rw [answersTo, answersTo, reply, answers]

end Alike

theorem unaffected_by_others (quota : Quota ν) (client : String) (events : List Event) :
    answersTo client { quota } events =
        answersTo client { quota } (events.filter (Event.concerns client)) ∧
      ∀ steps, (after { quota } (events.take steps)).isTracked client =
        (after { quota } ((events.take steps).filter (Event.concerns client))).isTracked client := by
  have same : Alike client ({ quota } : Limiter ν) { quota } := ⟨rfl, rfl⟩
  refine ⟨(same.run List.nodup_nil List.nodup_nil events).1, fun steps => ?_⟩
  exact (same.run List.nodup_nil List.nodup_nil (events.take steps)).2.isTracked

end Enrolment.Limiter
