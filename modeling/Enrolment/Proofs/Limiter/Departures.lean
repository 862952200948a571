import Enrolment.Proofs.Limiter.Isolation

set_option autoImplicit false

namespace Enrolment

-- What a bucket may still lack after it has been idle for so long.
def Quota.gap (quota : Quota Rat) (idle : Nat) : Rat :=
  max 0 (quota.burst - quota.rate * Amount.ofNanos idle)

theorem Quota.gap_nonneg (quota : Quota Rat) (idle : Nat) : 0 ≤ quota.gap idle := le_max_left _ _

theorem Quota.gap_eq_zero {quota : Quota Rat} {idle : Nat}
    (covers : (quota.burst : Rat) ≤ quota.rate * Amount.ofNanos idle) : quota.gap idle = 0 :=
  max_eq_left (sub_nonpos.mpr covers)

namespace Limiter

section Runs

variable {ν : Type} [Amount ν]

def visitsOf (client : String) : Limiter ν → List Event → List Visit
  | _, [] => []
  | limiter, event :: events =>
    ((limiter.replyTo? client event).map (Visit.mk event.now)).toList ++
      visitsOf client (limiter.happen event) events

def forgets (client : String) (limiter : Limiter ν) (event : Event) : Bool :=
  limiter.isTracked client && !(limiter.happen event).isTracked client

def departures (client : String) : Limiter ν → List Event → List Nat
  | _, [] => []
  | limiter, event :: events =>
    (if limiter.forgets client event then [event.now] else []) ++
      departures client (limiter.happen event) events

variable (client : String) (limiter : Limiter ν) (earlier later : List Event)

theorem visitsOf_append :
    limiter.visitsOf client (earlier ++ later) =
      limiter.visitsOf client earlier ++ (limiter.after earlier).visitsOf client later := by
  induction earlier generalizing limiter with
  | nil => rfl
  | cons event earlier ih =>
    simp only [List.cons_append, visitsOf, ih, List.append_assoc]
    rfl

theorem departures_append :
    limiter.departures client (earlier ++ later) =
      limiter.departures client earlier ++ (limiter.after earlier).departures client later := by
  induction earlier generalizing limiter with
  | nil => rfl
  | cons event earlier ih =>
    simp only [List.cons_append, departures, ih, List.append_assoc]
    rfl

theorem mem_now_of_admissions (events : List Event) {now : Nat}
    (member : now ∈ Visit.admissions (limiter.visitsOf client events)) :
    ∃ event ∈ events, event.now = now := by
  induction events generalizing limiter with
  | nil => simp [visitsOf] at member
  | cons event events ih =>
    rw [visitsOf, Visit.admissions_append] at member
    rcases List.mem_append.mp member with first | rest
    · cases reply : limiter.replyTo? client event with
      | none => simp [reply] at first
      | some answer =>
        cases answer <;> simp [reply, Visit.admissions] at first
        exact ⟨event, by simp, first.symm⟩
    · obtain ⟨other, later, same⟩ := ih _ rest
      exact ⟨other, by simp [later], same⟩

theorem mem_now_of_departures (events : List Event) {now : Nat}
    (member : now ∈ limiter.departures client events) : ∃ event ∈ events, event.now = now := by
  induction events generalizing limiter with
  | nil => simp [departures] at member
  | cons event events ih =>
    rcases List.mem_append.mp member with first | rest
    · split at first
      · exact ⟨event, by simp, (List.mem_singleton.mp first).symm⟩
      · cases first
    · obtain ⟨other, later, same⟩ := ih _ rest
      exact ⟨other, by simp [later], same⟩

theorem quota_after (events : List Event) : (limiter.after events).quota = limiter.quota := by
  induction events generalizing limiter with
  | nil => rfl
  | cons event events ih => cases event <;> exact ih _

theorem forgets_call (caller : String) (now : Nat) :
    limiter.forgets client (.call caller now) = false := by
  simp only [forgets, isTracked, happen, bucket?_allow]
  split <;> simp

end Runs

variable {limiter : Limiter Rat} {client : String} {now next : Nat}

theorem balance_tracked {bucket : Bucket Rat} (tracked : limiter.bucket? client = some bucket) :
    limiter.balance client now = bucket.refilled limiter.quota now := by
  simp [balance, tracked]

theorem balance_untracked (untracked : limiter.bucket? client = none) :
    limiter.balance client now = limiter.quota.burst := by
  simp [balance, untracked, Bucket.refilled_eq, Bucket.full, Amount.ofCount, Amount.ofNanos_zero]

theorem balance_le_burst (limiter : Limiter Rat) (client : String) (now : Nat) :
    limiter.balance client now ≤ limiter.quota.burst :=
  Bucket.refilled_le_burst _ _ _

structure IsUsed (limiter : Limiter Rat) (now : Nat) : Prop where
  once : limiter.ListsOnce
  kept : ∀ client bucket, limiter.bucket? client = some bucket → bucket.IsKept now

namespace IsUsed

theorem new (quota : Quota Rat) (now : Nat) : IsUsed { quota } now where
  once := List.nodup_nil
  kept := by simp [bucket?]

theorem later (used : limiter.IsUsed now) (later : now ≤ next) : limiter.IsUsed next where
  once := used.once
  kept client bucket tracked := (used.kept client bucket tracked).later later

theorem happen {event : Event} (used : limiter.IsUsed event.now) (rate : 0 ≤ limiter.quota.rate) :
    (limiter.happen event).IsUsed event.now := by
  constructor
  case once => exact listsOnce_happen used.once event
  case kept =>
    intro other bucket tracked
    cases event with
    | call caller instant =>
      rw [Limiter.happen, bucket?_allow] at tracked
      split at tracked
      · cases tracked
        apply Bucket.IsKept.take rate
        cases known : limiter.bucket? caller with
        | none => exact Bucket.isKept_full
        | some bucket => exact used.kept caller bucket known
      · exact used.kept other bucket tracked
    | sweep idle instant =>
      rw [Limiter.happen, bucket?_sweep used.once, Option.filter_eq_some_iff] at tracked
      exact used.kept other bucket tracked.1

theorem balance_nonneg (used : limiter.IsUsed now) (rate : 0 ≤ limiter.quota.rate)
    (client : String) :
    0 ≤ limiter.balance client now := by
  cases tracked : limiter.bucket? client with
  | none =>
    rw [balance_untracked tracked]
    exact Nat.cast_nonneg _
  | some bucket =>
    rw [balance_tracked tracked]
    exact Bucket.refilled_nonneg now rate (used.kept client bucket tracked).balance

theorem balance_later (used : limiter.IsUsed now) (rate : 0 ≤ limiter.quota.rate)
    (client : String) (later : now ≤ next) :
    limiter.balance client next ≤
      limiter.balance client now + limiter.quota.rate * Amount.ofNanos (next - now) := by
  have refill := mul_nonneg rate (Amount.ofNanos_nonneg (next - now))
  cases tracked : limiter.bucket? client with
  | none =>
    rw [balance_untracked tracked, balance_untracked tracked]
    linarith
  | some bucket =>
    have past := (used.kept client bucket tracked).past
    have waited : next - bucket.lastRefill = (now - bucket.lastRefill) + (next - now) := by omega
    rw [balance_tracked tracked, balance_tracked tracked, Bucket.refilled_eq, Bucket.refilled_eq,
      waited, Amount.ofNanos_add, ← min_add_add_right]
    apply min_le_min
    · linarith
    · linarith

end IsUsed

theorem burst_le_of_idle {quota : Quota Rat} {bucket : Bucket Rat} {idle : Nat}
    (kept : bucket.IsKept now) (rate : 0 ≤ quota.rate) (idles : isIdle idle now bucket = true) :
    (quota.burst : Rat) ≤ bucket.refilled quota now + quota.gap idle := by
  obtain ⟨balance, access, -⟩ := kept
  have waited : idle < now - bucket.lastRefill := by simpa [isIdle, access] using idles
  have longer : (Amount.ofNanos idle : Rat) ≤ Amount.ofNanos (now - bucket.lastRefill) :=
    Amount.ofNanos_mono (by omega)
  have refill := mul_le_mul_of_nonneg_right longer rate
  have lack : (quota.burst : Rat) - quota.rate * Amount.ofNanos idle ≤ quota.gap idle :=
    le_max_right _ _
  have nothing := quota.gap_nonneg idle
  rw [Bucket.refilled_eq, ← min_add_add_right]
  apply le_min
  · linarith
  · linarith

section Events

variable (limiter : Limiter Rat) (client : String) (now : Nat)

theorem balance_call :
    ((limiter.allow client now).1.toNat : Rat) + (limiter.allow client now).2.balance client now =
      limiter.balance client now := by
  have capped := limiter.balance_le_burst client now
  have stays (amount : Rat) (le : amount ≤ limiter.balance client now) :
      (Bucket.mk amount now now).refilled limiter.quota now = amount := by
    rw [Bucket.refilled_eq, Nat.sub_self, Amount.ofNanos_zero, zero_mul, add_zero]
    exact min_eq_left (le.trans capped)
  have tracked : (limiter.allow client now).2.bucket? client = some
      (((limiter.bucket? client).getD (.full limiter.quota now)).take limiter.quota now).2 := by
    rw [bucket?_allow, if_pos rfl]
  rw [balance_tracked tracked]
  by_cases enough : 1 ≤ limiter.balance client now
  · simp only [allow, Bucket.take_admits enough]
    change (1 : Rat) + (Bucket.mk (limiter.balance client now - 1) now now).refilled _ _ = _
    rw [stays _ (by linarith)]
    ring
  · simp only [allow, Bucket.take_refuses (not_le.mp enough)]
    change (0 : Rat) + (Bucket.mk (limiter.balance client now) now now).refilled _ _ = _
    rw [stays _ le_rfl, zero_add]

variable {limiter now}

theorem balance_swept (used : limiter.IsUsed now) (rate : 0 ≤ limiter.quota.rate) (idle : Nat) :
    (limiter.sweep idle now).2.balance client now ≤
      limiter.balance client now +
        if limiter.forgets client (.sweep idle now) then limiter.quota.gap idle else 0 := by
  have kept := bucket?_sweep used.once idle now client
  cases tracked : limiter.bucket? client with
  | none =>
    have untracked : (limiter.sweep idle now).2.bucket? client = none := by simp [kept, tracked]
    rw [balance_untracked untracked, balance_untracked tracked]
    simp [forgets, isTracked, tracked, sweep]
  | some bucket =>
    rw [tracked] at kept
    cases idles : isIdle idle now bucket with
    | false =>
      have still : (limiter.sweep idle now).2.bucket? client = some bucket := by
        simp [kept, idles, Option.filter]
      have stays : limiter.forgets client (.sweep idle now) = false := by
        simp [forgets, isTracked, happen, still]
      rw [stays, balance_tracked still, balance_tracked tracked]
      simp [sweep]
    | true =>
      have gone : (limiter.sweep idle now).2.bucket? client = none := by
        simp [kept, idles, Option.filter]
      have forgotten : limiter.forgets client (.sweep idle now) = true := by
        simp [forgets, isTracked, happen, tracked, gone]
      rw [forgotten, if_pos rfl, balance_untracked gone, balance_tracked tracked]
      exact burst_le_of_idle (used.kept client bucket tracked) rate idles

theorem balance_happen {event : Event} {idle : Nat} (used : limiter.IsUsed event.now)
    (rate : 0 ≤ limiter.quota.rate) (swept : ∀ other now, event = .sweep other now → other = idle) :
    ((Visit.admissions ((limiter.replyTo? client event).map (Visit.mk event.now)).toList).length
        : Rat) + (limiter.happen event).balance client event.now ≤
      limiter.balance client event.now +
        if limiter.forgets client event then limiter.quota.gap idle else 0 := by
  cases event with
  | sweep other now =>
    obtain rfl := swept other now rfl
    have present : limiter.IsUsed now := used
    have gained := balance_swept client present rate other
    simpa [replyTo?, happen, Event.now] using gained
  | call caller now =>
    rw [forgets_call, if_neg Bool.false_ne_true, add_zero]
    by_cases own : caller = client
    · subst own
      have paid := balance_call limiter caller now
      cases admitted : (limiter.allow caller now).1 <;> simp [admitted] at paid <;>
        simp [replyTo?, happen, admitted, paid, Event.now, Visit.admissions]
    · have same : (limiter.happen (.call caller now)).bucket? client = limiter.bucket? client := by
        rw [happen, bucket?_allow, if_neg (Ne.symm own)]
      have quota : (limiter.happen (.call caller now)).quota = limiter.quota := rfl
      simp [replyTo?, own, balance, same, quota]

end Events

theorem IsUsed.spend (client : String) {events : List Event} {idle stop : Nat} (used : limiter.IsUsed now)
    (rate : 0 ≤ limiter.quota.rate)
    (ordered : events.Pairwise fun earlier later => earlier.now ≤ later.now)
    (within : ∀ event ∈ events, now ≤ event.now ∧ event.now ≤ stop)
    (swept : ∀ other instant, .sweep other instant ∈ events → other = idle) :
    ((Visit.admissions (limiter.visitsOf client events)).length : Rat) ≤
      limiter.balance client now + limiter.quota.rate * Amount.ofNanos (stop - now) +
        (limiter.departures client events).length * limiter.quota.gap idle := by
  induction events generalizing limiter now with
  | nil =>
    have nonneg := used.balance_nonneg rate client
    have refill := mul_nonneg rate (Amount.ofNanos_nonneg (stop - now))
    simp only [visitsOf, departures, Visit.admissions_nil, List.length_nil, Nat.cast_zero, zero_mul]
    linarith
  | cons event events ih =>
    obtain ⟨begun, ends⟩ := within event (by simp)
    have following := (List.pairwise_cons.mp ordered).1
    have present := used.later begun
    have quota : (limiter.happen event).quota = limiter.quota := by cases event <;> rfl
    have waited := used.balance_later rate client begun
    have paid := balance_happen client present rate fun other now same =>
      swept other now (by simp [same])
    have rest := ih (present.happen rate) (quota ▸ rate) ordered.of_cons
      (fun other member => ⟨following other member, (within other (by simp [member])).2⟩)
      fun other now member => swept other now (by simp [member])
    have passed : stop - now = (event.now - now) + (stop - event.now) := by omega
    rw [quota] at rest
    rw [visitsOf, departures, Visit.admissions_append, List.length_append, List.length_append,
      passed, Amount.ofNanos_add]
    split at paid
    next forgotten =>
      simp only [forgotten, if_true, List.length_singleton, Nat.cast_add, Nat.cast_one]
      linarith
    next kept =>
      simp only [kept, if_false, List.length_nil, Nat.cast_add, Nat.cast_zero, Bool.false_eq_true]
      linarith

end Limiter

end Enrolment
