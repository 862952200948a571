import Enrolment.Proofs.Limiter.Spending
import Mathlib.Data.List.Infix

set_option autoImplicit false

namespace Enrolment

namespace Quota

variable (quota : Quota Rat)

-- Whether one more call fits at an instant, counting from any admission on.
def Fits (admissions : List Nat) (now : Nat) : Prop :=
  ∀ first recent, first :: recent <:+ admissions →
    ((first :: recent).length + 1 : Rat) ≤
      quota.burst + quota.rate * Amount.ofNanos (now - first)

instance (admissions : List Nat) (now : Nat) : Decidable (quota.Fits admissions now) :=
  decidable_of_iff (∀ stretch ∈ admissions.tails, ∀ first ∈ stretch.head?,
    (stretch.length + 1 : Rat) ≤ quota.burst + quota.rate * Amount.ofNanos (now - first)) <| by
    constructor
    · intro all first recent suffix
      exact all _ ((List.mem_tails _ _).mpr suffix) first rfl
    · intro fits stretch member first head
      obtain ⟨recent, rfl⟩ := List.head?_eq_some_iff.mp head
      exact fits first recent ((List.mem_tails _ _).mp member)

def greedy : List Nat → List Nat → List Visit
  | _, [] => []
  | admissions, now :: instants =>
    if quota.Fits admissions now then ⟨now, true⟩ :: greedy (admissions ++ [now]) instants
    else ⟨now, false⟩ :: greedy admissions instants

theorem greedy_split (admissions instants : List Nat) (earlier later : List Visit) (visit : Visit)
    (split : quota.greedy admissions instants = earlier ++ visit :: later) :
    visit.admitted = true ↔ quota.Fits (admissions ++ Visit.admissions earlier) visit.now := by
  induction instants generalizing admissions earlier with
  | nil => simp [greedy] at split
  | cons now instants ih =>
    rw [greedy] at split
    by_cases fits : quota.Fits admissions now
    · rw [if_pos fits] at split
      rcases List.cons_eq_append_iff.mp split with ⟨rfl, rest⟩ | ⟨more, rfl, rest⟩
      · cases rest
        simpa using fits
      · simpa using ih _ more rest
    · rw [if_neg fits] at split
      rcases List.cons_eq_append_iff.mp split with ⟨rfl, rest⟩ | ⟨more, rfl, rest⟩
      · cases rest
        simpa using fits
      · simpa using ih _ more rest

theorem greedy_sublist (admissions instants : List Nat) (kept : List Visit)
    (sublist : kept.Sublist (quota.greedy admissions instants))
    (all : Visit.admissions kept = Visit.admissions (quota.greedy admissions instants)) :
    quota.greedy admissions (kept.map Visit.now) = kept := by
  induction instants generalizing admissions kept with
  | nil =>
    rw [greedy, List.sublist_nil] at sublist
    rw [sublist]
    rfl
  | cons now instants ih =>
    rw [greedy] at sublist all
    by_cases fits : quota.Fits admissions now
    · rw [if_pos fits] at sublist all
      rw [Visit.admissions_admitted] at all
      cases sublist with
      | cons _ rest =>
        -- An admission would be lost.
        have fewer := ((rest.filter Visit.admitted).map Visit.now).length_le
        have same := congrArg List.length all
        simp only [Visit.admissions, List.length_cons] at fewer same
        omega
      | cons_cons _ rest =>
        rw [Visit.admissions_admitted, List.cons.injEq] at all
        rw [List.map_cons, greedy, if_pos fits, ih _ _ rest all.2]
    · rw [if_neg fits] at sublist all
      rw [Visit.admissions_refused] at all
      cases sublist with
      | cons _ rest => exact ih _ _ rest all
      | cons_cons _ rest =>
        rw [Visit.admissions_refused] at all
        rw [List.map_cons, greedy, if_neg fits, ih _ _ rest all]

def Leaves (admissions : List Nat) (now : Nat) (amount : Rat) : Prop :=
  amount ≤ quota.burst ∧ ∀ first recent, first :: recent <:+ admissions →
    amount + (first :: recent).length ≤ quota.burst + quota.rate * Amount.ofNanos (now - first)

variable {quota} {admissions : List Nat} {now : Nat}

theorem leaves_one (burst : 1 ≤ quota.burst) :
    quota.Leaves admissions now 1 ↔ quota.Fits admissions now := by
  have room : (1 : Rat) ≤ quota.burst := by exact_mod_cast burst
  simp only [Leaves, Fits, room, true_and, add_comm (1 : Rat)]

theorem leaves_spend (amount : Rat) :
    quota.Leaves (admissions ++ [now]) now amount ↔ quota.Leaves admissions now (amount + 1) := by
  constructor
  · rintro ⟨-, all⟩
    have own := all now [] (List.suffix_append _ _)
    simp only [Nat.sub_self, Amount.ofNanos_zero, mul_zero, List.length_singleton,
      Nat.cast_one] at own
    refine ⟨by linarith, fun first recent suffix => ?_⟩
    have longer := all first (recent ++ [now]) (List.suffix_append_self_iff.mpr suffix)
    simp only [List.length_cons, List.length_append, List.length_nil, Nat.cast_add, Nat.cast_one,
      Nat.cast_zero] at longer ⊢
    linarith
  · rintro ⟨room, all⟩
    refine ⟨by linarith, fun first recent suffix => ?_⟩
    -- Either the new admission alone, or it comes behind a stretch of the former ones.
    rcases List.suffix_concat_iff.mp suffix with empty | ⟨stretch, parts, former⟩
    · cases empty
    cases stretch with
    | nil =>
      cases parts
      simp only [Nat.sub_self, Amount.ofNanos_zero, mul_zero, List.length_singleton, Nat.cast_one]
      linarith
    | cons other more =>
      rw [List.cons_append, List.cons.injEq] at parts
      obtain ⟨rfl, rfl⟩ := parts
      have shorter := all _ _ former
      simp only [List.length_cons, List.length_append, List.length_nil, Nat.cast_add, Nat.cast_one,
        Nat.cast_zero] at shorter ⊢
      linarith

theorem leaves_later {last : Nat} (rate : 0 ≤ quota.rate) (past : ∀ former ∈ admissions, former ≤ last)
    (later : last ≤ now) (amount : Rat) :
    quota.Leaves admissions now amount ↔ amount ≤ quota.burst ∧
      quota.Leaves admissions last (amount - quota.rate * Amount.ofNanos (now - last)) := by
  have refill := mul_nonneg rate (Amount.ofNanos_nonneg (now - last))
  have waited {first : Nat} {recent : List Nat} (suffix : first :: recent <:+ admissions) :
      quota.rate * Amount.ofNanos (now - first) =
        quota.rate * Amount.ofNanos (now - last) + quota.rate * Amount.ofNanos (last - first) := by
    have before := past first (suffix.subset (by simp))
    rw [← mul_add, ← Amount.ofNanos_add]
    congr 2
    omega
  constructor
  · rintro ⟨room, all⟩
    refine ⟨room, by linarith, fun first recent suffix => ?_⟩
    have bound := all first recent suffix
    rw [waited suffix] at bound
    linarith
  · rintro ⟨room, -, all⟩
    refine ⟨room, fun first recent suffix => ?_⟩
    have bound := all first recent suffix
    rw [waited suffix]
    linarith

end Quota

namespace Bucket

open Quota

-- A bucket whose balance says what its admissions leave, and no more than that.
structure Reflects (quota : Quota Rat) (bucket : Bucket Rat) (admissions : List Nat) : Prop where
  past : ∀ former ∈ admissions, former ≤ bucket.lastRefill
  balance : ∀ amount, amount ≤ bucket.balance ↔
    quota.Leaves admissions bucket.lastRefill amount

variable {quota : Quota Rat} {bucket : Bucket Rat} {admissions : List Nat} {now : Nat}

theorem reflects_full (now : Nat) : (full quota now).Reflects quota [] where
  past := by simp
  balance amount := by simp [full, Leaves, Amount.ofCount]

theorem Reflects.refilled (reflects : bucket.Reflects quota admissions) (rate : 0 ≤ quota.rate)
    (later : bucket.lastRefill ≤ now) (amount : Rat) :
    amount ≤ bucket.refilled quota now ↔ quota.Leaves admissions now amount := by
  rw [refilled_eq, le_min_iff, and_comm, leaves_later rate reflects.past later, ← reflects.balance,
    sub_le_iff_le_add, mul_comm quota.rate]

theorem Reflects.spend (reflects : bucket.Reflects quota admissions) (rate : 0 ≤ quota.rate)
    (later : bucket.lastRefill ≤ now) :
    (Bucket.mk (bucket.refilled quota now - 1) now now).Reflects quota (admissions ++ [now]) where
  past former member := by
    rcases List.mem_append.mp member with before | last
    · exact (reflects.past former before).trans later
    · rw [List.mem_singleton.mp last]
  balance amount := by
    rw [leaves_spend, ← reflects.refilled rate later, le_sub_iff_add_le]

theorem Reflects.refuse (reflects : bucket.Reflects quota admissions) (rate : 0 ≤ quota.rate)
    (later : bucket.lastRefill ≤ now) :
    (Bucket.mk (bucket.refilled quota now) now now).Reflects quota admissions where
  past former member := (reflects.past former member).trans later
  balance amount := reflects.refilled rate later amount

theorem visits_eq_greedy (rate : 0 ≤ quota.rate) (burst : 1 ≤ quota.burst)
    (reflects : bucket.Reflects quota admissions) (instants : List Nat)
    (ordered : (bucket.lastRefill :: instants).Pairwise (· ≤ ·)) :
    bucket.visits quota instants = quota.greedy admissions instants := by
  -- Both runs stay in step as long as the balance reflects what has been let through.
  induction instants generalizing bucket admissions with
  | nil => rfl
  | cons now instants ih =>
    have later : bucket.lastRefill ≤ now := List.rel_of_pairwise_cons ordered (by simp)
    have affordable := (reflects.refilled rate later 1).trans (leaves_one burst)
    rw [visits, greedy]
    by_cases fits : quota.Fits admissions now
    · rw [if_pos fits, take_admits (affordable.mpr fits)]
      exact congrArg _ (ih (reflects.spend rate later) ordered.of_cons)
    · rw [if_neg fits, take_refuses (not_le.mp (mt affordable.mp fits))]
      exact congrArg _ (ih (reflects.refuse rate later) ordered.of_cons)

end Bucket

namespace Limiter

variable (limiter : Limiter Rat) (client : String)

theorem visits_eq_greedy (instants : List Nat) (untracked : limiter.bucket? client = none)
    (rate : 0 ≤ limiter.quota.rate) (burst : 1 ≤ limiter.quota.burst)
    (ordered : instants.Pairwise (· ≤ ·)) :
    limiter.visits client instants = limiter.quota.greedy [] instants := by
  rw [visits_untracked untracked]
  cases instants with
  | nil => rfl
  | cons now instants =>
    refine Bucket.visits_eq_greedy rate burst (Bucket.reflects_full now) _ ?_
    change (now :: now :: instants).Pairwise (· ≤ ·)
    have first := (List.pairwise_cons.mp ordered).1
    exact List.pairwise_cons.mpr ⟨by simpa using first, ordered⟩

theorem admitted_iff_fits (instants : List Nat) (untracked : limiter.bucket? client = none)
    (rate : 0 ≤ limiter.quota.rate) (burst : 1 ≤ limiter.quota.burst)
    (ordered : instants.Pairwise (· ≤ ·)) :
    (∀ earlier visit later, limiter.visits client instants = earlier ++ visit :: later →
        (visit.admitted = true ↔
          limiter.quota.Fits (Visit.admissions earlier) visit.now)) ∧
      (∀ kept, kept.Sublist (limiter.visits client instants) →
        Visit.admissions kept = Visit.admissions (limiter.visits client instants) →
          limiter.visits client (kept.map Visit.now) = kept) ∧
      ∀ start length, ((Visit.admissions (limiter.visits client instants)).countP
          fun now => start ≤ now ∧ now ≤ start + length : Rat) ≤
        limiter.quota.burst + limiter.quota.rate * Amount.ofNanos length := by
  have greedy := limiter.visits_eq_greedy client instants untracked rate burst ordered
  refine ⟨fun earlier visit later split => ?_, fun kept sublist all => ?_, fun start length => ?_⟩
  · rw [greedy] at split
    simpa using limiter.quota.greedy_split [] instants earlier later visit split
  · have fewer : (kept.map Visit.now).Sublist instants := by
      have mapped := sublist.map Visit.now
      rwa [visits_untracked untracked, Bucket.map_now_visits] at mapped
    rw [limiter.visits_eq_greedy client _ untracked rate burst (ordered.sublist fewer)]
    rw [greedy] at sublist all
    exact limiter.quota.greedy_sublist [] instants kept sublist all
  · rw [visits_untracked untracked]
    exact Bucket.admissions_within_le rate _ (Nat.cast_nonneg _) instants ordered start length

def ration : Limiter Rat := { quota := ⟨1 / 10, 3⟩ }

def knocks : List Visit :=
  [⟨0, true⟩, ⟨0, true⟩, ⟨0, true⟩, ⟨5 * 10 ^ 9, false⟩, ⟨10 ^ 10, true⟩, ⟨10 ^ 10, false⟩]

theorem visits_ration : ration.visits "ann" (knocks.map Visit.now) = knocks := by
  decide +kernel

theorem admitted_iff_fits_ration :
    ¬ration.quota.Fits [0, 0, 0] (5 * 10 ^ 9) ∧ ration.quota.Fits [0, 0, 0] (10 ^ 10) ∧
      ration.visits "ann" ((knocks.filter Visit.admitted).map Visit.now) =
        knocks.filter Visit.admitted ∧
      (4 : Rat) ≤ 3 + 1 / 10 * Amount.ofNanos (10 ^ 10) := by
  obtain ⟨fits, traceless, within⟩ := ration.admitted_iff_fits "ann" (knocks.map Visit.now) rfl
    (by decide +kernel) (by decide +kernel) (by decide +kernel)
  rw [visits_ration] at fits traceless within
  refine ⟨?_, ?_, traceless _ (by decide) (by decide), ?_⟩
  · exact (not_congr (fits (knocks.take 3) _ _ rfl)).mp (by decide)
  · exact (fits (knocks.take 4) _ _ rfl).mp (by decide)
  · exact within 0 (10 ^ 10)

end Limiter

end Enrolment
