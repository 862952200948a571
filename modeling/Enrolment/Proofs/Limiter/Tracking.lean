import Enrolment.Proofs.Limiter.Departures
import Mathlib.Data.List.Induction

set_option autoImplicit false

namespace Enrolment

def Limiter.Event.calledAt? (client : String) : Limiter.Event → Option Nat
  | call caller now => if caller = client then some now else none
  | sweep _ _ => none

namespace Limiter

def lastCall? (client : String) (events : List Event) : Option Nat :=
  (events.filterMap (Event.calledAt? client)).getLast?

theorem lastCall?_concat (client : String) (events : List Event) (event : Event) :
    lastCall? client (events ++ [event]) = (event.calledAt? client).or (lastCall? client events) := by
  rw [lastCall?, List.filterMap_append, List.getLast?_append]
  cases called : event.calledAt? client <;> simp [called, lastCall?]

variable {ν : Type}

def clients (limiter : Limiter ν) : List String := limiter.buckets.map Prod.fst

theorem mem_clients {limiter : Limiter ν} {client : String} :
    client ∈ limiter.clients ↔ limiter.isTracked client = true := by
  unfold clients isTracked bucket?
  induction limiter.buckets with
  | nil => simp
  | cons entry entries ih =>
    by_cases same : client = entry.1
    · simp [same]
    · simp [same, ih]

theorem bucket?_of_mem {limiter : Limiter ν} (once : limiter.ListsOnce)
    {entry : String × Bucket ν} (listed : entry ∈ limiter.buckets) :
    limiter.bucket? entry.1 = some entry.2 := by
  obtain ⟨before, behind, split⟩ := List.append_of_mem listed
  refine List.lookup_eq_some_iff.mpr ⟨before, behind, split, fun other former => ?_⟩
  rw [ListsOnce, split, List.map_append, List.map_cons, List.nodup_append] at once
  have apart := once.2.2 other.1 (List.mem_map_of_mem former) entry.1 List.mem_cons_self
  simpa using apart.symm

variable [Amount ν]

theorem after_concat (limiter : Limiter ν) (events : List Event) (event : Event) :
    limiter.after (events ++ [event]) = (limiter.after events).happen event := by
  simp [after]

theorem listsOnce_after (quota : Quota ν) (events : List Event) :
    (after { quota } events).ListsOnce := by
  induction events using List.reverseRecOn with
  | nil => exact List.nodup_nil
  | append_singleton events event ih =>
    rw [after_concat]
    exact listsOnce_happen ih event

omit [Amount ν] in
theorem bucket?_of_swept {limiter : Limiter ν} (once : limiter.ListsOnce) {idle now : Nat}
    {client : String} {bucket : Bucket ν}
    (stays : (limiter.sweep idle now).2.bucket? client = some bucket) :
    limiter.bucket? client = some bucket ∧ isIdle idle now bucket = false := by
  rw [bucket?_sweep once, Option.filter_eq_some_iff] at stays
  simpa using stays

theorem lastCall?_of_tracked (quota : Quota ν) (events : List Event) {client : String}
    {bucket : Bucket ν} (tracked : (after { quota } events).bucket? client = some bucket) :
    lastCall? client events = some bucket.lastAccess := by
  induction events using List.reverseRecOn generalizing bucket with
  | nil => simp [after, bucket?] at tracked
  | append_singleton events event ih =>
    rw [after_concat] at tracked
    rw [lastCall?_concat]
    cases event with
    | call caller now =>
      rw [happen, bucket?_allow] at tracked
      split at tracked
      next own =>
        cases tracked
        simp only [Event.calledAt?, own, if_true, Option.some_or, Bucket.take]
        split <;> rfl
      next other =>
        rw [Event.calledAt?, if_neg (Ne.symm other), Option.none_or]
        exact ih tracked
    | sweep idle now =>
      exact ih (bucket?_of_swept (listsOnce_after quota events) tracked).1

def CalledSinceEviction (quota : Quota ν) (client : String) (events : List Event) : Prop :=
  ∃ earlier now later, events = earlier ++ .call client now :: later ∧
    (after { quota } (earlier ++ [.call client now])).departures client later = []

theorem departures_singleton (client : String) (limiter : Limiter ν) (event : Event) :
    limiter.departures client [event] = [] ↔ limiter.forgets client event = false := by
  cases forgotten : limiter.forgets client event <;> simp [departures, forgotten]

theorem calledSinceEviction_concat (quota : Quota ν) (client : String) (events : List Event)
    (event : Event) :
    CalledSinceEviction quota client (events ++ [event]) ↔
      (event.calledAt? client).isSome = true ∨ CalledSinceEviction quota client events ∧
        (after { quota } events).forgets client event = false := by
  -- Up to the new event, the run since the call is the run of all that came before.
  have resumed (earlier later : List Event) (now : Nat) :
      (after { quota } (earlier ++ [.call client now])).after later =
        after { quota } (earlier ++ .call client now :: later) := by
    simp [after]
  constructor
  · rintro ⟨earlier, now, later, split, stays⟩
    rcases List.eq_nil_or_concat later with rfl | ⟨later, last, rfl⟩
    · obtain ⟨-, same⟩ := List.append_inj' split rfl
      obtain rfl := List.singleton_inj.mp same
      exact .inl (by simp [Event.calledAt?])
    · rw [List.concat_eq_append] at split stays
      rw [← List.cons_append, ← List.append_assoc] at split
      obtain ⟨rfl, same⟩ := List.append_inj' split rfl
      obtain rfl := List.singleton_inj.mp same
      rw [departures_append, List.append_eq_nil_iff, departures_singleton, resumed] at stays
      exact .inr ⟨⟨earlier, now, later, rfl, stays.1⟩, stays.2⟩
  · rintro (called | ⟨⟨earlier, now, later, rfl, stays⟩, kept⟩)
    · cases event with
      | sweep idle now => cases called
      | call caller now =>
        obtain rfl : caller = client := by simpa [Event.calledAt?] using called
        exact ⟨events, now, [], rfl, rfl⟩
    · refine ⟨earlier, now, later ++ [event], by simp, ?_⟩
      rw [departures_append, List.append_eq_nil_iff, departures_singleton, resumed]
      exact ⟨stays, kept⟩

theorem isTracked_happen {limiter : Limiter ν} (once : limiter.ListsOnce) (client : String)
    (event : Event) :
    (limiter.happen event).isTracked client = true ↔
      (event.calledAt? client).isSome = true ∨
        limiter.isTracked client = true ∧ limiter.forgets client event = false := by
  cases event with
  | call caller now =>
    rw [forgets_call, isTracked, happen, bucket?_allow]
    by_cases own : caller = client
    · simp [own, Event.calledAt?]
    · simp [own, Ne.symm own, Event.calledAt?, isTracked]
  | sweep idle now =>
    have earlier (stays : (limiter.happen (.sweep idle now)).isTracked client = true) :
        limiter.isTracked client = true := by
      obtain ⟨bucket, found⟩ := Option.isSome_iff_exists.mp stays
      rw [isTracked, (bucket?_of_swept once found).1, Option.isSome_some]
    cases stays : (limiter.happen (.sweep idle now)).isTracked client with
    | true => simp [forgets, stays, earlier stays]
    | false => simp [forgets, stays, Event.calledAt?]

theorem isTracked_after (quota : Quota ν) (client : String) (events : List Event) :
    (after { quota } events).isTracked client = true ↔ CalledSinceEviction quota client events := by
  induction events using List.reverseRecOn with
  | nil =>
    constructor
    · intro tracked
      cases tracked
    · rintro ⟨earlier, now, later, split, -⟩
      simp at split
  | append_singleton events event ih =>
    rw [after_concat, isTracked_happen (listsOnce_after quota events), calledSinceEviction_concat, ih]

structure Evicts (limiter : Limiter ν) (events : List Event) (idle now : Nat) : Prop where
  -- The last call lies more than the idle time back, so it is not ahead of now either.
  gone (client : String) : limiter.forgets client (.sweep idle now) = true ↔
    limiter.isTracked client = true ∧
      ∃ last, lastCall? client events = some last ∧ last + idle < now
  counted : (limiter.sweep idle now).1 =
    limiter.clients.countP (limiter.forgets · (.sweep idle now))
  kept {client : String} (stays : (limiter.sweep idle now).2.isTracked client = true) :
    (limiter.sweep idle now).2.bucket? client = limiter.bucket? client
  again : (limiter.sweep idle now).2.sweep idle now = (0, (limiter.sweep idle now).2)

theorem forgets_sweep {limiter : Limiter ν} (once : limiter.ListsOnce) (idle now : Nat)
    (client : String) :
    limiter.forgets client (.sweep idle now) = (limiter.bucket? client).any (isIdle idle now) := by
  rw [forgets, isTracked, isTracked, happen, bucket?_sweep once]
  cases limiter.bucket? client with
  | none => rfl
  | some bucket => cases idles : isIdle idle now bucket <;> simp [idles, Option.filter]

theorem countP_forgets {limiter : Limiter ν} (once : limiter.ListsOnce) (idle now : Nat) :
    limiter.clients.countP (limiter.forgets · (.sweep idle now)) =
      limiter.buckets.countP fun entry => isIdle idle now entry.2 := by
  rw [clients, List.countP_map]
  refine List.countP_congr fun entry listed => ?_
  simp [forgets_sweep once, bucket?_of_mem once listed]

omit [Amount ν] in
theorem sweep_swept (limiter : Limiter ν) (idle now : Nat) :
    (limiter.sweep idle now).2.sweep idle now = (0, (limiter.sweep idle now).2) := by
  simp [sweep, List.filter_filter]

theorem evicts_after (quota : Quota ν) (events : List Event) (idle now : Nat) :
    (after { quota } events).Evicts events idle now := by
  have once := listsOnce_after quota events
  have last (client : String) (bucket : Bucket ν)
      (tracked : (after { quota } events).bucket? client = some bucket) :
      lastCall? client events = some bucket.lastAccess :=
    lastCall?_of_tracked quota events tracked
  generalize after { quota } events = limiter at once last ⊢
  constructor
  case gone =>
    intro client
    rw [forgets_sweep once, isTracked]
    cases tracked : limiter.bucket? client with
    | none => simp
    | some bucket =>
      simp only [Option.any_some, isIdle, decide_eq_true_eq, Option.isSome_some, true_and,
        last client bucket tracked, Option.some.injEq, exists_eq_left']
      omega
  case counted =>
    have parted := List.length_eq_countP_add_countP (fun entry => isIdle idle now entry.2)
      (l := limiter.buckets)
    rw [countP_forgets once, sweep, ← List.countP_eq_length_filter, parted]
    simp
  case kept =>
    intro client stays
    obtain ⟨bucket, found⟩ := Option.isSome_iff_exists.mp stays
    rw [found, (bucket?_of_swept once found).1]
  case again => exact limiter.sweep_swept idle now

theorem tracked_since_eviction (quota : Quota ν) (events : List Event) :
    (after { quota } events).clients.Nodup ∧
      (∀ client, client ∈ (after { quota } events).clients ↔
        CalledSinceEviction quota client events) ∧
      ∀ idle now, (after { quota } events).Evicts events idle now := by
  refine ⟨listsOnce_after quota events, fun client => ?_, evicts_after quota events⟩
  exact mem_clients.trans (isTracked_after quota client events)

end Limiter

end Enrolment
