import Enrolment.Limiter.Table
import Mathlib.Algebra.Order.Ring.Rat
import Mathlib.Data.List.Basic
import Mathlib.Tactic.Linarith
import Mathlib.Tactic.Ring

set_option autoImplicit false

namespace Enrolment

structure Visit where
  now : Nat
  admitted : Bool
  deriving Repr, DecidableEq

namespace Visit

def admissions (visits : List Visit) : List Nat := (visits.filter Visit.admitted).map Visit.now

@[simp] theorem admissions_nil : admissions [] = [] := rfl

@[simp] theorem admissions_admitted (now : Nat) (visits : List Visit) :
    admissions (⟨now, true⟩ :: visits) = now :: admissions visits := by
  simp [admissions]

@[simp] theorem admissions_refused (now : Nat) (visits : List Visit) :
    admissions (⟨now, false⟩ :: visits) = admissions visits := by
  simp [admissions]

@[simp] theorem admissions_append (earlier later : List Visit) :
    admissions (earlier ++ later) = admissions earlier ++ admissions later := by
  simp [admissions]

end Visit

namespace Amount

theorem ofNanos_zero : (ofNanos 0 : Rat) = 0 := by simp [ofNanos]

theorem ofNanos_add (left right : Nat) :
    (ofNanos (left + right) : Rat) = ofNanos left + ofNanos right := by
  simp only [ofNanos, Nat.cast_add]
  ring

theorem ofNanos_nonneg (nanos : Nat) : 0 ≤ (ofNanos nanos : Rat) := by
  exact div_nonneg (Nat.cast_nonneg nanos) (by norm_num)

theorem ofNanos_mono {left right : Nat} (le : left ≤ right) :
    (ofNanos left : Rat) ≤ ofNanos right := by
  obtain ⟨more, rfl⟩ := Nat.exists_eq_add_of_le le
  have := ofNanos_nonneg more
  rw [ofNanos_add]
  linarith

end Amount

namespace Bucket

section Visits

variable {ν : Type} [Amount ν] (quota : Quota ν)

def visits : Bucket ν → List Nat → List Visit
  | _, [] => []
  | bucket, now :: instants =>
    ⟨now, (bucket.take quota now).1⟩ :: visits (bucket.take quota now).2 instants

def after : Bucket ν → List Nat → Bucket ν
  | bucket, [] => bucket
  | bucket, now :: instants => after (bucket.take quota now).2 instants

theorem visits_append (bucket : Bucket ν) (earlier later : List Nat) :
    bucket.visits quota (earlier ++ later) =
      bucket.visits quota earlier ++ (bucket.after quota earlier).visits quota later := by
  induction earlier generalizing bucket with
  | nil => rfl
  | cons now earlier ih =>
    simp only [List.cons_append, visits, ih]
    rfl

@[simp] theorem map_now_visits (bucket : Bucket ν) (instants : List Nat) :
    (bucket.visits quota instants).map Visit.now = instants := by
  induction instants generalizing bucket with
  | nil => rfl
  | cons now instants ih => simp only [visits, List.map_cons, ih]

theorem admissions_sublist (bucket : Bucket ν) (instants : List Nat) :
    (Visit.admissions (bucket.visits quota instants)).Sublist instants := by
  have sublist : (Visit.admissions (bucket.visits quota instants)).Sublist
      ((bucket.visits quota instants).map Visit.now) := List.filter_sublist.map Visit.now
  rwa [map_now_visits] at sublist

end Visits

section Balance

variable (quota : Quota Rat) (bucket : Bucket Rat) (now : Nat)

theorem refilled_eq :
    bucket.refilled quota now =
      min (bucket.balance + Amount.ofNanos (now - bucket.lastRefill) * quota.rate) quota.burst := by
  rw [min_comm, min_def_lt]
  rfl

theorem refilled_le_burst : bucket.refilled quota now ≤ quota.burst := by
  rw [refilled_eq]
  exact min_le_right _ _

theorem refilled_le :
    bucket.refilled quota now ≤
      bucket.balance + quota.rate * Amount.ofNanos (now - bucket.lastRefill) := by
  rw [refilled_eq, mul_comm quota.rate]
  exact min_le_left _ _

theorem visits_refilled (instants : List Nat) :
    bucket.visits quota (now :: instants) =
      (Bucket.mk (bucket.refilled quota now) now now).visits quota (now :: instants) := by
  have again : (Bucket.mk (bucket.refilled quota now) now now).refilled quota now =
      bucket.refilled quota now := by
    rw [refilled_eq, Nat.sub_self, Amount.ofNanos_zero, zero_mul, add_zero]
    exact min_eq_left (refilled_le_burst quota bucket now)
  simp only [visits, take, again]

variable {quota bucket}

theorem refilled_nonneg (rate : 0 ≤ quota.rate) (balance : 0 ≤ bucket.balance) :
    0 ≤ bucket.refilled quota now := by
  have refill := mul_nonneg (Amount.ofNanos_nonneg (now - bucket.lastRefill)) rate
  rw [refilled_eq]
  exact le_min (by linarith) (Nat.cast_nonneg _)

variable {now}

theorem take_admits (enough : 1 ≤ bucket.refilled quota now) :
    bucket.take quota now = (true, ⟨bucket.refilled quota now - 1, now, now⟩) := by
  simp only [take, Amount.covers, Amount.ofCount, Amount.minus, Nat.cast_one, enough, decide_true,
    if_true]

theorem take_refuses (short : bucket.refilled quota now < 1) :
    bucket.take quota now = (false, ⟨bucket.refilled quota now, now, now⟩) := by
  simp only [take, Amount.covers, Amount.ofCount, Amount.minus, Nat.cast_one, not_le.mpr short,
    decide_false, Bool.false_eq_true, if_false]

end Balance

end Bucket

namespace Limiter

variable {ν : Type}

theorem lookup_put (client other : String) (bucket : Bucket ν)
    (buckets : List (String × Bucket ν)) :
    (put client bucket buckets).lookup other =
      if other = client then some bucket else buckets.lookup other := by
  induction buckets with
  | nil =>
    by_cases same : other = client
    · simp [put, same]
    · simp [put, List.lookup_cons, beq_false_of_ne same, same]
  | cons entry buckets ih =>
    rcases entry with ⟨known, former⟩
    by_cases here : known = client
    · rw [put, if_pos here, ← here]
      by_cases same : other = known
      · simp [same]
      · simp [List.lookup_cons, beq_false_of_ne same, same]
    · rw [put, if_neg here]
      by_cases first : other = known
      · simp [first, here]
      · simp [List.lookup_cons, beq_false_of_ne first, ih]

variable [Amount ν] {limiter : Limiter ν} {client : String}

def visits (limiter : Limiter ν) (client : String) : List Nat → List Visit
  | [] => []
  | now :: instants =>
    ⟨now, (limiter.allow client now).1⟩ :: visits (limiter.allow client now).2 client instants

theorem bucket?_allow (limiter : Limiter ν) (client other : String) (now : Nat) :
    (limiter.allow client now).2.bucket? other =
      if other = client then
        some (((limiter.bucket? client).getD (.full limiter.quota now)).take limiter.quota now).2
      else limiter.bucket? other :=
  lookup_put client other _ _

def balance (limiter : Limiter ν) (client : String) (now : Nat) : ν :=
  ((limiter.bucket? client).getD (.full limiter.quota now)).refilled limiter.quota now

theorem visits_tracked {bucket : Bucket ν} (tracked : limiter.bucket? client = some bucket)
    (instants : List Nat) :
    limiter.visits client instants = bucket.visits limiter.quota instants := by
  induction instants generalizing limiter bucket with
  | nil => rfl
  | cons now instants ih =>
    have kept : (limiter.allow client now).2.bucket? client =
        some (bucket.take limiter.quota now).2 := by
      rw [bucket?_allow, if_pos rfl, tracked, Option.getD_some]
    rw [visits, Bucket.visits, ih kept]
    simp only [allow, tracked, Option.getD_some]

theorem visits_untracked (untracked : limiter.bucket? client = none) (instants : List Nat) :
    limiter.visits client instants =
      (Bucket.full limiter.quota (instants.headD 0)).visits limiter.quota instants := by
  cases instants with
  | nil => rfl
  | cons now instants =>
    have kept : (limiter.allow client now).2.bucket? client =
        some ((Bucket.full limiter.quota now).take limiter.quota now).2 := by
      rw [bucket?_allow, if_pos rfl, untracked, Option.getD_none]
    rw [visits, Bucket.visits, visits_tracked kept]
    simp only [allow, untracked, Option.getD_none, List.headD_cons]

end Limiter

end Enrolment
