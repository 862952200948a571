import Enrolment.Proofs.Store.Roster

set_option autoImplicit false

namespace Enrolment

namespace Page

def saturatingAdd (a b : UInt64) : UInt64 :=
  if a + b < a then .ofNat (UInt64.size - 1) else a + b

def wordBounds (size : UInt64) (offset limit : Option UInt64) :
    Except StoreError (UInt64 × UInt64) :=
  let start := offset.getD 0
  if start > size || limit = some 0 then
    .error (.outOfRange start.toNat (limit.map UInt64.toNat) size.toNat)
  else .ok (start, limit.elim size fun limit => min (saturatingAdd start limit) size)

theorem toNat_saturatingAdd (a b : UInt64) :
    (saturatingAdd a b).toNat = min (a.toNat + b.toNat) (UInt64.size - 1) := by
  have first := a.toNat_lt
  have second := b.toNat_lt
  have sum : (a + b).toNat = (a.toNat + b.toNat) % 2 ^ 64 := UInt64.toNat_add a b
  unfold saturatingAdd
  split
  next wrapped =>
    rw [UInt64.lt_iff_toNat_lt] at wrapped
    have largest : (UInt64.ofNat (UInt64.size - 1)).toNat = UInt64.size - 1 := by decide
    rw [largest]
    simp only [UInt64.size]
    omega
  next exact =>
    rw [UInt64.lt_iff_toNat_lt] at exact
    simp only [UInt64.size]
    omega

theorem toNat_min_saturatingAdd (a b size : UInt64) :
    (min (saturatingAdd a b) size).toNat = min (a.toNat + b.toNat) size.toNat := by
  have sum := toNat_saturatingAdd a b
  have small := size.toNat_lt
  have least : min (saturatingAdd a b) size =
      if saturatingAdd a b ≤ size then saturatingAdd a b else size := rfl
  rw [least]
  simp only [UInt64.le_iff_toNat_le, UInt64.size] at sum ⊢
  split <;> omega

variable {size : UInt64} {offset limit : Option UInt64}

theorem toNat_stop (size start : UInt64) (limit : Option UInt64) :
    (limit.elim size fun limit => min (saturatingAdd start limit) size).toNat =
      min (start.toNat + (limit.map UInt64.toNat).getD size.toNat) size.toNat := by
  cases limit with
  | none => exact (Nat.min_eq_right (Nat.le_add_left _ _)).symm
  | some limit => exact toNat_min_saturatingAdd start limit size

theorem wordBounds_cases (size : UInt64) (offset limit : Option UInt64) :
    ((size < offset.getD 0 ∨ limit = some 0) ∧ wordBounds size offset limit =
        .error (.outOfRange (offset.getD 0).toNat (limit.map UInt64.toNat) size.toNat)) ∨
      ∃ start stop, wordBounds size offset limit = .ok (start, stop) ∧
        start = offset.getD 0 ∧ start ≤ stop ∧ stop ≤ size ∧ limit ≠ some 0 ∧
        stop.toNat =
          min (start.toNat + (limit.map UInt64.toNat).getD size.toNat) size.toNat := by
  by_cases outside : size < offset.getD 0 ∨ limit = some 0
  · exact .inl ⟨outside, by simp [wordBounds, outside]⟩
  · obtain ⟨within, several⟩ := not_or.mp outside
    have stop := toNat_stop size (offset.getD 0) limit
    refine .inr ⟨_, _, by simp [wordBounds, outside], rfl, ?_, ?_, several, stop⟩
    all_goals
      rw [UInt64.not_lt, UInt64.le_iff_toNat_le] at within
      rw [UInt64.le_iff_toNat_le, stop]
      omega

theorem bounds_eq_wordBounds (size : UInt64) (offset limit : Option UInt64) :
    bounds size.toNat (offset.map UInt64.toNat) (limit.map UInt64.toNat) =
      (wordBounds size offset limit).map fun ends =>
        ⟨ends.1.toNat, ends.2.toNat - ends.1.toNat⟩ := by
  have start : (offset.map UInt64.toNat).getD 0 = (offset.getD 0).toNat := by
    cases offset <;> rfl
  have past : size < offset.getD 0 ↔ size.toNat < (offset.getD 0).toNat :=
    UInt64.lt_iff_toNat_lt
  have empty : limit = some 0 ↔ limit.map UInt64.toNat = some 0 := by
    cases limit with
    | none => simp
    | some limit => simp [← UInt64.toNat_inj]
  rcases wordBounds_cases size offset limit with ⟨outside, refused⟩ |
    ⟨_, last, given, rfl, ordered, fits, several, stop⟩
  · rw [past, empty, ← start] at outside
    rw [refused, bounds, if_pos (by simpa using outside), start]
    rfl
  · have inside : ¬ (size.toNat < (offset.map UInt64.toNat).getD 0 ∨
        limit.map UInt64.toNat = some 0) := by
      rw [start, ← past, ← empty, not_or, UInt64.not_lt]
      exact ⟨UInt64.le_trans ordered fits, several⟩
    rcases bounds_cases size.toNat (offset.map UInt64.toNat) (limit.map UInt64.toNat) with
      ⟨outside, -⟩ | ⟨-, -, found⟩
    · exact absurd outside inside
    · have size : min ((limit.map UInt64.toNat).getD size.toNat)
          (size.toNat - (offset.getD 0).toNat) = last.toNat - (offset.getD 0).toNat := by
        rw [stop]
        omega
      rw [given, found, start, size]
      rfl

theorem toInt_toInt64 (word : UInt64) (small : 2 * word.toNat < UInt64.size) :
    word.toInt64.toInt = word.toNat := by
  have bits : word.toInt64.toInt = word.toBitVec.toInt := rfl
  rw [bits, BitVec.toInt_eq_toNat_of_lt]
  · rfl
  · have same : word.toBitVec.toNat = word.toNat := rfl
    simp only [UInt64.size] at small
    omega

theorem toNat_count {count : Int64} {length : Nat} (counted : count.toInt = length) :
    count.toUInt64.toNat = length ∧ 2 * length < UInt64.size := by
  have small := count.toInt_lt
  have positive : 0 ≤ count := by
    rw [Int64.le_iff_toInt_le, counted]
    exact Int.natCast_nonneg length
  have cast : count.toUInt64.toNat = count.toInt.toNat := Int64.toNat_toUInt64_of_le positive
  rw [counted, Int.toNat_natCast] at cast
  refine ⟨cast, ?_⟩
  simp only [UInt64.size]
  omega

structure Covers (length : Nat) (offset limit : Option UInt64) (start stop : UInt64) : Prop where
  first : start = offset.getD 0
  ordered : start ≤ stop
  last : stop.toNat = min (start.toNat + (limit.map UInt64.toNat).getD length) length
  start_cast : start.toInt64.toInt = start.toNat
  size_cast : (stop - start).toInt64.toInt = stop.toNat - start.toNat

theorem covers_of_wordBounds {count : Int64} {length : Nat} {start stop : UInt64}
    (counted : count.toInt = length)
    (found : wordBounds count.toUInt64 offset limit = .ok (start, stop)) :
    Covers length offset limit start stop := by
  obtain ⟨cast, small⟩ := toNat_count counted
  rcases wordBounds_cases count.toUInt64 offset limit with ⟨-, refused⟩ |
    ⟨_, _, given, first, ordered, fits, -, last⟩
  · cases refused.symm.trans found
  · cases given.symm.trans found
    have size := UInt64.toNat_sub_of_le stop start ordered
    rw [UInt64.le_iff_toNat_le] at fits
    refine ⟨first, ordered, cast ▸ last, toInt_toInt64 start ?_, ?_⟩
    · rw [UInt64.le_iff_toNat_le] at ordered
      omega
    · rw [toInt_toInt64 _ (by omega), size, Int.ofNat_sub (UInt64.le_iff_toNat_le.mp ordered)]

end Page

end Enrolment
