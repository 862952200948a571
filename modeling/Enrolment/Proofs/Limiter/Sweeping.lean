import Enrolment.Proofs.Limiter.Visits

set_option autoImplicit false

namespace Enrolment

namespace Bucket

variable {quota : Quota Rat} {bucket : Bucket Rat} {now : Nat}

def IsFullBy (quota : Quota Rat) (bucket : Bucket Rat) (now : Nat) : Prop :=
  (quota.burst : Rat) ≤ bucket.balance + quota.rate * Amount.ofNanos (now - bucket.lastRefill)

structure IsKept (bucket : Bucket Rat) (now : Nat) : Prop where
  balance : 0 ≤ bucket.balance
  access : bucket.lastAccess = bucket.lastRefill
  past : bucket.lastRefill ≤ now

theorem IsFullBy.later {next : Nat} (rate : 0 ≤ quota.rate) (later : now ≤ next)
    (full : bucket.IsFullBy quota now) : bucket.IsFullBy quota next := by
  have longer : (Amount.ofNanos (now - bucket.lastRefill) : Rat) ≤
      Amount.ofNanos (next - bucket.lastRefill) := Amount.ofNanos_mono (by omega)
  have refill := mul_le_mul_of_nonneg_left longer rate
  unfold IsFullBy at full ⊢
  linarith

theorem IsFullBy.take (full : bucket.IsFullBy quota now) :
    bucket.take quota now = (Bucket.full quota now).take quota now := by
  have refilled : bucket.refilled quota now = quota.burst := by
    rw [refilled_eq, mul_comm]
    exact min_eq_right full
  have fresh : (Bucket.full quota now).refilled quota now = quota.burst := by
    rw [refilled_eq]
    simp [Bucket.full, Amount.ofCount, Amount.ofNanos_zero]
  simp only [Bucket.take, refilled, fresh]

theorem isKept_full : (Bucket.full quota now).IsKept now :=
  ⟨Nat.cast_nonneg _, rfl, Nat.le_refl now⟩

theorem IsKept.later {next : Nat} (kept : bucket.IsKept now) (later : now ≤ next) :
    bucket.IsKept next :=
  ⟨kept.balance, kept.access, kept.past.trans later⟩

theorem IsKept.take (rate : 0 ≤ quota.rate) (kept : bucket.IsKept now) :
    (bucket.take quota now).2.IsKept now := by
  by_cases enough : 1 ≤ bucket.refilled quota now
  · rw [take_admits enough]
    exact ⟨sub_nonneg.mpr enough, rfl, Nat.le_refl now⟩
  · rw [take_refuses (not_le.mp enough)]
    exact ⟨refilled_nonneg now rate kept.balance, rfl, Nat.le_refl now⟩

theorem IsKept.isFullBy {idle : Nat} (kept : bucket.IsKept now) (rate : 0 ≤ quota.rate)
    (covers : (quota.burst : Rat) ≤ quota.rate * Amount.ofNanos idle)
    (isIdle : Limiter.isIdle idle now bucket = true) : bucket.IsFullBy quota now := by
  have waited : idle < now - bucket.lastRefill := by
    simpa [Limiter.isIdle, kept.access] using isIdle
  have longer : (Amount.ofNanos idle : Rat) ≤ Amount.ofNanos (now - bucket.lastRefill) :=
    Amount.ofNanos_mono (by omega)
  have refill := mul_le_mul_of_nonneg_left longer rate
  have balance := kept.balance
  unfold IsFullBy
  linarith

end Bucket

namespace Limiter

section Buckets

variable {ν : Type}

theorem mem_keys_put {client other : String} (bucket : Bucket ν)
    (buckets : List (String × Bucket ν)) :
    other ∈ (put client bucket buckets).map Prod.fst ↔
      other = client ∨ other ∈ buckets.map Prod.fst := by
  induction buckets with
  | nil => simp [put]
  | cons entry buckets ih =>
    by_cases same : entry.1 = client
    · simp [put, same]
    · rw [put, if_neg same, List.map_cons, List.mem_cons, ih, List.map_cons, List.mem_cons]
      exact or_left_comm

theorem nodup_keys_put (client : String) (bucket : Bucket ν) {buckets : List (String × Bucket ν)}
    (unique : (buckets.map Prod.fst).Nodup) :
    ((put client bucket buckets).map Prod.fst).Nodup := by
  induction buckets with
  | nil => simp [put]
  | cons entry buckets ih =>
    rw [List.map_cons, List.nodup_cons] at unique
    by_cases same : entry.1 = client
    · rw [put, if_pos same, List.map_cons, List.nodup_cons, ← same]
      exact unique
    · rw [put, if_neg same, List.map_cons, List.nodup_cons, mem_keys_put]
      exact ⟨by simp [same, unique.1], ih unique.2⟩

theorem lookup_filter {buckets : List (String × Bucket ν)}
    (unique : (buckets.map Prod.fst).Nodup) (keeps : Bucket ν → Bool) (client : String) :
    (buckets.filter fun entry => keeps entry.2).lookup client =
      (buckets.lookup client).filter keeps := by
  induction buckets with
  | nil => rfl
  | cons entry buckets ih =>
    rcases entry with ⟨known, bucket⟩
    rw [List.map_cons, List.nodup_cons] at unique
    by_cases same : client = known
    · subst same
      -- No other entry is for this client, so nothing comes up behind one that is dropped.
      have missing : buckets.lookup client = none := by
        rw [List.lookup_eq_none_iff]
        intro entry member
        have other : client ≠ entry.1 := by
          intro here
          exact unique.1 (List.mem_map.mpr ⟨entry, member, here.symm⟩)
        simpa using other
      cases kept : keeps bucket with
      | true => simp [kept, Option.filter]
      | false => simp [kept, ih unique.2, missing, Option.filter]
    · cases kept : keeps bucket <;>
        simp [kept, List.lookup_cons, beq_false_of_ne same, ih unique.2]

def ListsOnce (limiter : Limiter ν) : Prop := (limiter.buckets.map Prod.fst).Nodup

theorem listsOnce_allow [Amount ν] {limiter : Limiter ν} (once : limiter.ListsOnce)
    (client : String) (now : Nat) : (limiter.allow client now).2.ListsOnce :=
  nodup_keys_put client _ once

theorem listsOnce_sweep {limiter : Limiter ν} (once : limiter.ListsOnce) (idle now : Nat) :
    (limiter.sweep idle now).2.ListsOnce :=
  List.Nodup.sublist (List.filter_sublist.map Prod.fst) once

theorem bucket?_sweep {limiter : Limiter ν} (once : limiter.ListsOnce) (idle now : Nat)
    (client : String) :
    (limiter.sweep idle now).2.bucket? client =
      (limiter.bucket? client).filter fun bucket => !isIdle idle now bucket :=
  lookup_filter once (fun bucket => !isIdle idle now bucket) client

end Buckets

inductive Event
  | call (client : String) (now : Nat)
  | sweep (idle now : Nat)
  deriving DecidableEq

namespace Event

def now : Event → Nat
  | call _ now => now
  | sweep _ now => now

def isCall : Event → Bool
  | call .. => true
  | sweep .. => false

end Event

def answers {ν : Type} [Amount ν] : Limiter ν → List Event → List Bool
  | _, [] => []
  | limiter, .call client now :: events =>
    (limiter.allow client now).1 :: answers (limiter.allow client now).2 events
  | limiter, .sweep idle now :: events => answers (limiter.sweep idle now).2 events

-- A limiter that has forgotten only buckets of another that are full by now.
structure Shadows (swept steady : Limiter Rat) (now : Nat) : Prop where
  quota : swept.quota = steady.quota
  unique : (swept.buckets.map Prod.fst).Nodup
  kept : ∀ client bucket, steady.bucket? client = some bucket → bucket.IsKept now
  clients : ∀ client, swept.bucket? client = steady.bucket? client ∨
    swept.bucket? client = none ∧
      ∃ bucket, steady.bucket? client = some bucket ∧ bucket.IsFullBy steady.quota now

namespace Shadows

variable {swept steady : Limiter Rat} {now next : Nat}

theorem refl (quota : Quota Rat) (now : Nat) :
    Shadows { quota } { quota } now where
  quota := rfl
  unique := List.nodup_nil
  kept := by simp [bucket?]
  clients _ := .inl rfl

theorem later (shadows : Shadows swept steady now) (rate : 0 ≤ steady.quota.rate)
    (later : now ≤ next) : Shadows swept steady next where
  quota := shadows.quota
  unique := shadows.unique
  kept client bucket tracked := (shadows.kept client bucket tracked).later later
  clients client := by
    rcases shadows.clients client with same | ⟨forgotten, bucket, tracked, full⟩
    · exact .inl same
    · exact .inr ⟨forgotten, bucket, tracked, full.later rate later⟩

theorem take (shadows : Shadows swept steady now) (client : String) :
    ((swept.bucket? client).getD (.full swept.quota now)).take swept.quota now =
      ((steady.bucket? client).getD (.full steady.quota now)).take steady.quota now := by
  rw [shadows.quota]
  rcases shadows.clients client with same | ⟨forgotten, bucket, tracked, full⟩
  · rw [same]
  · rw [forgotten, tracked, Option.getD_none, Option.getD_some, full.take]

theorem call (shadows : Shadows swept steady now) (rate : 0 ≤ steady.quota.rate)
    (client : String) :
    (swept.allow client now).1 = (steady.allow client now).1 ∧
      Shadows (swept.allow client now).2 (steady.allow client now).2 now := by
  have same := shadows.take client
  refine ⟨by simp only [allow, same], ?_⟩
  constructor
  case quota => exact shadows.quota
  case unique => exact listsOnce_allow shadows.unique client now
  case kept =>
    intro other bucket tracked
    rw [bucket?_allow] at tracked
    split at tracked
    · cases tracked
      refine Bucket.IsKept.take rate ?_
      cases known : steady.bucket? client with
      | none => exact Bucket.isKept_full
      | some bucket => exact shadows.kept client bucket known
    · exact shadows.kept other bucket tracked
  case clients =>
    intro other
    rw [bucket?_allow, bucket?_allow, same]
    split
    · exact .inl rfl
    · exact shadows.clients other

theorem sweep (shadows : Shadows swept steady now) (rate : 0 ≤ steady.quota.rate) {idle : Nat}
    (covers : (steady.quota.burst : Rat) ≤ steady.quota.rate * Amount.ofNanos idle) :
    Shadows (swept.sweep idle now).2 steady now where
  quota := shadows.quota
  unique := listsOnce_sweep shadows.unique idle now
  kept := shadows.kept
  clients := by
    intro client
    rw [bucket?_sweep shadows.unique]
    rcases shadows.clients client with same | ⟨forgotten, full⟩
    · rw [same]
      cases tracked : steady.bucket? client with
      | none => exact .inl rfl
      | some bucket =>
        cases idles : isIdle idle now bucket with
        | false => exact .inl (by simp [idles, Option.filter])
        | true =>
          have full := (shadows.kept client bucket tracked).isFullBy rate covers idles
          exact .inr ⟨by simp [idles, Option.filter], bucket, rfl, full⟩
    · exact .inr ⟨by simp [forgotten], full⟩

theorem answers (shadows : Shadows swept steady now) (rate : 0 ≤ steady.quota.rate)
    (events : List Event) (ordered : events.Pairwise fun earlier later => earlier.now ≤ later.now)
    (begun : ∀ event ∈ events, now ≤ event.now)
    (covers : ∀ idle instant, .sweep idle instant ∈ events →
      (steady.quota.burst : Rat) ≤ steady.quota.rate * Amount.ofNanos idle) :
    swept.answers events = steady.answers (events.filter Event.isCall) := by
  induction events generalizing swept steady now with
  | nil => rfl
  | cons event events ih =>
    have following := (List.pairwise_cons.mp ordered).1
    have others : ∀ idle instant, .sweep idle instant ∈ events →
        (steady.quota.burst : Rat) ≤ steady.quota.rate * Amount.ofNanos idle :=
      fun idle instant member => covers idle instant (List.mem_cons_of_mem _ member)
    cases event with
    | call client instant =>
      have present : Shadows swept steady instant :=
        shadows.later rate (begun _ List.mem_cons_self)
      obtain ⟨same, after⟩ := present.call rate client
      rw [List.filter_cons_of_pos rfl, Limiter.answers, Limiter.answers, same,
        ih after rate ordered.of_cons following others]
    | sweep idle instant =>
      have present : Shadows swept steady instant :=
        shadows.later rate (begun _ List.mem_cons_self)
      have after := present.sweep rate (covers idle instant List.mem_cons_self)
      rw [List.filter_cons_of_neg Bool.false_ne_true, Limiter.answers]
      exact ih after rate ordered.of_cons following others

end Shadows

theorem answers_eq_without_sweeps (quota : Quota Rat) (events : List Event)
    (rate : 0 ≤ quota.rate)
    (ordered : events.Pairwise fun earlier later => earlier.now ≤ later.now)
    (covers : ∀ idle now, .sweep idle now ∈ events →
      (quota.burst : Rat) ≤ quota.rate * Amount.ofNanos idle) :
    ({ quota } : Limiter Rat).answers events =
      ({ quota } : Limiter Rat).answers (events.filter Event.isCall) :=
  (Shadows.refl quota 0).answers rate events ordered (fun _ _ => Nat.zero_le _) covers

-- Both buckets are empty or nearly so. At thirty seconds the first one is still kept, and a moment
-- later it is forgotten.
def rounds : List Event :=
  [.call "ann" 0, .call "ann" 0, .call "ann" 0, .call "ann" 0, .call "bob" (10 ^ 10),
    .sweep (3 * 10 ^ 10) (3 * 10 ^ 10), .sweep (3 * 10 ^ 10) (3 * 10 ^ 10 + 1),
    .call "ann" (3 * 10 ^ 10 + 1), .call "bob" (3 * 10 ^ 10 + 1)]

theorem answers_eq_without_sweeps_rounds :
    ({ quota := ⟨1 / 10, 3⟩ } : Limiter Rat).answers rounds =
        ({ quota := ⟨1 / 10, 3⟩ } : Limiter Rat).answers (rounds.filter Event.isCall) ∧
      ({ quota := ⟨1 / 10, 3⟩ } : Limiter Rat).answers rounds =
        [true, true, true, false, true, true, true] := by
  refine ⟨answers_eq_without_sweeps ⟨1 / 10, 3⟩ rounds (by decide +kernel) (by decide) ?_,
    by decide +kernel⟩
  intro idle now member
  simp [rounds] at member
  rcases member with ⟨rfl, -⟩ | ⟨rfl, -⟩ <;> decide +kernel

end Limiter

end Enrolment
