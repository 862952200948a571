import Enrolment.Proofs.Limiter.Visits

set_option autoImplicit false

namespace Enrolment

namespace Bucket

def advances : List Nat → Nat
  | last :: now :: instants => (now - last) + advances (now :: instants)
  | _ => 0

def setbacks : List Nat → Nat
  | last :: now :: instants => (last - now) + setbacks (now :: instants)
  | _ => 0

theorem advances_add_le (last stop : Nat) (instants : List Nat) (early : last ≤ stop)
    (within : ∀ now ∈ instants, now ≤ stop) :
    advances (last :: instants) + last ≤ stop + setbacks (last :: instants) := by
  induction instants generalizing last with
  | nil => simpa [advances, setbacks] using early
  | cons now instants ih =>
    have rest := ih now (within now (by simp)) fun other member => within other (by simp [member])
    simp only [advances, setbacks]
    omega

theorem setbacks_eq_zero (instants : List Nat) (ordered : instants.Pairwise (· ≤ ·)) :
    setbacks instants = 0 := by
  induction instants with
  | nil => rfl
  | cons last instants ih =>
    cases instants with
    | nil => rfl
    | cons now instants =>
      have step : last ≤ now := List.rel_of_pairwise_cons ordered (by simp)
      rw [setbacks, Nat.sub_eq_zero_of_le step, ih ordered.of_cons]

variable {quota : Quota Rat}

theorem admissions_le_balance (rate : 0 ≤ quota.rate) (bucket : Bucket Rat)
    (balance : 0 ≤ bucket.balance) (instants : List Nat) :
    ((Visit.admissions (bucket.visits quota instants)).length : Rat) ≤
      bucket.balance + quota.rate * Amount.ofNanos (advances (bucket.lastRefill :: instants)) := by
  induction instants generalizing bucket with
  | nil => simpa [visits, advances, Amount.ofNanos_zero] using balance
  | cons now instants ih =>
    -- The cap only takes away, so what comes in bounds the refill from above.
    have refill := refilled_le quota bucket now
    have nonneg := refilled_nonneg now rate balance
    rw [visits, advances, Amount.ofNanos_add, mul_add]
    by_cases enough : 1 ≤ bucket.refilled quota now
    · have rest := ih ⟨bucket.refilled quota now - 1, now, now⟩ (by simpa using enough)
      rw [take_admits enough, Visit.admissions_admitted, List.length_cons, Nat.cast_succ]
      simp only at rest
      linarith
    · have rest := ih ⟨bucket.refilled quota now, now, now⟩ nonneg
      rw [take_refuses (not_le.mp enough), Visit.admissions_refused]
      simp only at rest
      linarith

theorem admissions_le_burst (rate : 0 ≤ quota.rate) (bucket : Bucket Rat)
    (balance : 0 ≤ bucket.balance) (instants : List Nat) :
    ((Visit.admissions (bucket.visits quota instants)).length : Rat) ≤
      quota.burst + quota.rate * Amount.ofNanos (advances instants) := by
  cases instants with
  | nil => simp [visits, advances, Amount.ofNanos_zero]
  | cons now instants =>
    have capped := refilled_le_burst quota bucket now
    have spent := admissions_le_balance rate (Bucket.mk (bucket.refilled quota now) now now)
      (refilled_nonneg now rate balance) (now :: instants)
    rw [visits_refilled]
    simp only [advances, Nat.sub_self, Nat.zero_add] at spent ⊢
    linarith

theorem admissions_le (rate : 0 ≤ quota.rate) (bucket : Bucket Rat) (balance : 0 ≤ bucket.balance)
    (instants : List Nat) (start length : Nat)
    (within : ∀ now ∈ instants, start ≤ now ∧ now ≤ start + length) :
    ((Visit.admissions (bucket.visits quota instants)).length : Rat) ≤
      quota.burst + quota.rate * Amount.ofNanos (length + setbacks instants) := by
  have spent := admissions_le_burst rate bucket balance instants
  have covered : advances instants ≤ length + setbacks instants := by
    cases instants with
    | nil => simp [advances]
    | cons first instants =>
      have begun := within first (by simp)
      have bound := advances_add_le first (start + length) instants begun.2
        fun now member => (within now (by simp [member])).2
      omega
  have granted := mul_le_mul_of_nonneg_left (Amount.ofNanos_mono covered) rate
  linarith

theorem balance_after_nonneg (rate : 0 ≤ quota.rate) (bucket : Bucket Rat)
    (balance : 0 ≤ bucket.balance) (instants : List Nat) :
    0 ≤ (bucket.after quota instants).balance := by
  induction instants generalizing bucket with
  | nil => exact balance
  | cons now instants ih =>
    refine ih _ ?_
    by_cases enough : 1 ≤ bucket.refilled quota now
    · rw [take_admits enough]
      exact sub_nonneg.mpr enough
    · rw [take_refuses (not_le.mp enough)]
      exact refilled_nonneg now rate balance

theorem exists_window (instants : List Nat) (ordered : instants.Pairwise (· ≤ ·))
    (start stop : Nat) :
    ∃ early inside late, instants = early ++ (inside ++ late) ∧ (∀ now ∈ early, now < start) ∧
      (∀ now ∈ inside, start ≤ now ∧ now ≤ stop) ∧ ∀ now ∈ late, stop < now := by
  induction instants with
  | nil => exact ⟨[], [], [], by simp⟩
  | cons now instants ih =>
    have later : ∀ other ∈ instants, now ≤ other := (List.pairwise_cons.mp ordered).1
    obtain ⟨early, inside, late, rfl, before, within, behind⟩ := ih ordered.of_cons
    by_cases first : now < start
    · exact ⟨now :: early, inside, late, rfl, by simpa [first] using before, within, behind⟩
    -- All that follows is at least as late, so nothing is left before the window.
    have begun : early = [] := by
      refine List.eq_nil_iff_forall_not_mem.mpr fun other member => ?_
      have := later other (List.mem_append_left _ member)
      have := before other member
      omega
    subst begun
    by_cases last : now ≤ stop
    · refine ⟨[], now :: inside, late, rfl, by simp, ?_, behind⟩
      simpa [last, Nat.le_of_not_lt first] using within
    · have ended : inside = [] := by
        refine List.eq_nil_iff_forall_not_mem.mpr fun other member => ?_
        have := later other (List.mem_append_right _ (List.mem_append_left _ member))
        have := (within other member).2
        omega
      subst ended
      exact ⟨[], [], now :: late, rfl, by simp, by simp, by simpa [Nat.lt_of_not_le last] using behind⟩

theorem admissions_within_le (rate : 0 ≤ quota.rate) (bucket : Bucket Rat)
    (balance : 0 ≤ bucket.balance) (instants : List Nat) (ordered : instants.Pairwise (· ≤ ·))
    (start length : Nat) :
    ((Visit.admissions (bucket.visits quota instants)).countP
        fun now => start ≤ now ∧ now ≤ start + length : Rat) ≤
      quota.burst + quota.rate * Amount.ofNanos length := by
  obtain ⟨early, inside, late, rfl, before, within, behind⟩ :=
    exists_window instants ordered start (start + length)
  have outside (bucket : Bucket Rat) (instants : List Nat)
      (apart : ∀ now ∈ instants, now < start ∨ start + length < now) :
      (Visit.admissions (bucket.visits quota instants)).countP
        (fun now => start ≤ now ∧ now ≤ start + length) = 0 := by
    refine List.countP_eq_zero.mpr fun now member => ?_
    have := apart now ((admissions_sublist quota bucket instants).subset member)
    simp only [decide_eq_true_eq]
    omega
  have spent := admissions_le rate (bucket.after quota early)
    (balance_after_nonneg rate bucket balance early) inside start length within
  rw [setbacks_eq_zero inside (ordered.sublist (by simp)), Nat.add_zero] at spent
  rw [visits_append, visits_append, Visit.admissions_append, Visit.admissions_append,
    List.countP_append, List.countP_append, outside bucket early fun now member =>
      .inl (before now member), outside _ late fun now member => .inr (behind now member)]
  refine le_trans ?_ spent
  have counted := List.countP_le_length (l := Visit.admissions
    ((bucket.after quota early).visits quota inside))
    (p := fun now => decide (start ≤ now ∧ now ≤ start + length))
  simpa using counted

end Bucket

namespace Limiter

open Bucket

variable (limiter : Limiter Rat) (client : String)

theorem admissions_le_of_setbacks (instants : List Nat) (start length : Nat)
    (untracked : limiter.bucket? client = none) (rate : 0 ≤ limiter.quota.rate)
    (within : ∀ now ∈ instants, start ≤ now ∧ now ≤ start + length) :
    ((Visit.admissions (limiter.visits client instants)).length : Rat) ≤
        limiter.quota.burst +
          limiter.quota.rate * Amount.ofNanos (length + setbacks instants) ∧
      (instants.Pairwise (· ≤ ·) →
        ((Visit.admissions (limiter.visits client instants)).length : Rat) ≤
          limiter.quota.burst + limiter.quota.rate * Amount.ofNanos length) := by
  have spent := admissions_le rate (.full limiter.quota (instants.headD 0)) (Nat.cast_nonneg _)
    instants start length within
  rw [visits_untracked untracked]
  refine ⟨spent, fun ordered => ?_⟩
  rwa [setbacks_eq_zero instants ordered, Nat.add_zero] at spent

def seesaw : Limiter Rat := { quota := ⟨1, 1⟩ }

-- Two calls that read the clock early take turns with three that read it a second later.
def swings : List Nat := [1000000000, 0, 1000000000, 0, 1000000000]

theorem admissions_exceed_quota :
    (∀ now ∈ swings, 0 ≤ now ∧ now ≤ 0 + 1000000000) ∧
      (seesaw.visits "client" swings).map Visit.admitted = [true, false, true, false, true] ∧
      seesaw.quota.burst + seesaw.quota.rate * Amount.ofNanos 1000000000 <
        ((Visit.admissions (seesaw.visits "client" swings)).length : Rat) := by
  decide +kernel

theorem admissions_le_of_setbacks_swings :
    ((Visit.admissions (seesaw.visits "client" swings)).length : Rat) ≤
      seesaw.quota.burst + seesaw.quota.rate * Amount.ofNanos (1000000000 + 2000000000) :=
  (seesaw.admissions_le_of_setbacks "client" swings 0 1000000000 rfl (by decide) (by decide)).1

end Limiter

end Enrolment
