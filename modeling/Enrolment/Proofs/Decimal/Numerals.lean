import Enrolment.Decimal.Reading

set_option autoImplicit false

namespace Enrolment.Decimal

def IsNumeral (digits : List Char) : Prop :=
  allDigits digits = true ∧ (digits.head? = some '0' → digits = ['0'])

variable {digits chars : List Char}

theorem digitsValue_eq (digits : List Char) :
    digitsValue digits = Nat.ofDigitChars 10 digits 0 := by
  rw [digitsValue, Nat.ofDigitChars_eq_foldl]
  simp only [Nat.mul_comm 10]
  rfl

theorem digitChar_digit {char : Char} (digit : isAsciiDigit char = true) :
    (char.toNat - 48).digitChar = char := by
  simp only [isAsciiDigit, Bool.and_eq_true, decide_eq_true_eq] at digit
  apply Char.toNat_inj.mp
  rw [Nat.toNat_digitChar_of_lt_ten (by omega)]
  omega

theorem digit_lt {char : Char} (digit : isAsciiDigit char = true) : char.toNat - 48 < 10 := by
  simp only [isAsciiDigit, Bool.and_eq_true, decide_eq_true_eq] at digit
  omega

theorem toDigits_foldl (decimal : ∀ char ∈ digits, isAsciiDigit char = true) {value : Nat}
    (positive : 0 < value) :
    Nat.toDigits 10 (digits.foldl (fun value char => value * 10 + (char.toNat - 48)) value) =
      Nat.toDigits 10 value ++ digits := by
  induction digits generalizing value with
  | nil => simp
  | cons char digits ih =>
    obtain ⟨first, rest⟩ := List.forall_mem_cons.mp decimal
    have longer := Nat.toDigits_append_toDigits (by decide : 1 < 10) positive (digit_lt first)
    rw [Nat.toDigits_of_lt_base (digit_lt first), digitChar_digit first] at longer
    rw [List.foldl_cons, ih rest (by omega), Nat.mul_comm value, ← longer, List.append_assoc]
    rfl

theorem toDigits_digitsValue (numeral : IsNumeral digits) :
    Nat.toDigits 10 (digitsValue digits) = digits := by
  obtain ⟨decimal, lead⟩ := numeral
  simp only [allDigits, Bool.and_eq_true, List.all_eq_true] at decimal
  cases digits with
  | nil => simp at decimal
  | cons char digits =>
    obtain ⟨first, rest⟩ := List.forall_mem_cons.mp decimal.2
    by_cases zero : char = '0'
    case pos =>
      rw [lead (congrArg some zero)]
      decide
    have positive : 0 < char.toNat - 48 := Nat.pos_of_ne_zero fun none => by
      rw [← digitChar_digit first, none] at zero
      exact zero rfl
    have value : digitsValue (char :: digits) =
        digits.foldl (fun value char => value * 10 + (char.toNat - 48)) (char.toNat - 48) := by
      simp [digitsValue]
    rw [value, toDigits_foldl rest positive, Nat.toDigits_of_lt_base (digit_lt first),
      digitChar_digit first]
    rfl

theorem head_toDigits {value : Nat} (positive : 0 < value) :
    (Nat.toDigits 10 value).head? ≠ some '0' := by
  induction value using Nat.strongRecOn with
  | ind value ih =>
    by_cases short : value < 10
    · have nonzero : ∀ value < 10, 0 < value → [Nat.digitChar value].head? ≠ some '0' := by decide
      rw [Nat.toDigits_of_lt_base short]
      exact nonzero value short positive
    · have lead := ih (value / 10) (by omega) (by omega)
      rw [Nat.toDigits_of_base_le (by decide) (by omega),
        List.head?_append]
      rwa [List.head?_eq_some_head Nat.toDigits_ne_nil] at lead ⊢

theorem isNumeral_toDigits (value : Nat) : IsNumeral (Nat.toDigits 10 value) := by
  refine ⟨?_, fun lead => ?_⟩
  · simp only [allDigits, Bool.and_eq_true, List.all_eq_true]
    refine ⟨by simp, fun char member => ?_⟩
    have digit := Nat.isDigit_of_mem_toDigits (by decide) (by decide) member
    simpa [isAsciiDigit, Char.isDigit_iff_toNat] using digit
  · cases value with
    | zero => rfl
    | succ value => exact absurd lead (head_toDigits (Nat.succ_pos value))

theorem toDigits_digitsValue_iff :
    Nat.toDigits 10 (digitsValue digits) = digits ↔ IsNumeral digits := by
  refine ⟨fun same => ?_, toDigits_digitsValue⟩
  rw [← same]
  exact isNumeral_toDigits _

def IsInteger : List Char → Prop
  | '-' :: digits => IsNumeral digits ∧ digits ≠ ['0']
  | digits => IsNumeral digits

theorem not_isNumeral {char : Char} (foreign : isAsciiDigit char = false) :
    ¬IsNumeral (char :: chars) := fun numeral => by simp [IsNumeral, allDigits, foreign] at numeral

theorem toString_natural_iff {limit value : Nat} (read : natural? limit chars = some value) :
    (toString value).toList = chars ↔ IsNumeral chars := by
  have written : (toString value).toList = Nat.toDigits 10 value := by
    rw [Nat.toString_eq_ofList_toDigits, String.toList_ofList]
  unfold natural? at read
  split at read
  next rest =>
    -- No numeral has a sign.
    have foreign : ¬IsNumeral ('+' :: rest) := not_isNumeral (by decide)
    refine iff_of_false (fun same => foreign ?_) foreign
    rw [← same, written]
    exact isNumeral_toDigits value
  next =>
    simp only [Option.ite_none_right_eq_some, Option.some.injEq] at read
    rw [written, ← read.2, toDigits_digitsValue_iff]

theorem toString_negSucc (value : Nat) :
    (toString (Int.negSucc value)).toList = '-' :: Nat.toDigits 10 (value + 1) := by
  have text : toString (Int.negSucc value) = "-" ++ String.ofList (Nat.toDigits 10 (value + 1)) :=
    rfl
  rw [text, String.toList_append, String.toList_ofList, String.toList_ofList,
    List.singleton_append]

theorem toString_negative_iff (digits : List Char) :
    (toString (-(digitsValue digits : Int))).toList = '-' :: digits ↔
      IsNumeral digits ∧ digits ≠ ['0'] := by
  cases size : digitsValue digits with
  | zero =>
    have written : (toString (-((0 : Nat) : Int))).toList.head? = some '0' := by decide
    refine iff_of_false (fun same => ?_) fun ⟨numeral, nonzero⟩ => nonzero ?_
    · rw [same] at written
      cases written
    · rw [← toDigits_digitsValue numeral, size]
      rfl
  | succ value =>
    have nonzero : digits ≠ ['0'] := by
      rintro rfl
      cases size
    have below : -((value + 1 : Nat) : Int) = Int.negSucc value := rfl
    rw [below, toString_negSucc, List.cons.injEq, ← size, toDigits_digitsValue_iff]
    simp [nonzero]

theorem toString_eq_iff {value : Int} (read : integer? chars = some value) :
    (toString value).toList = chars ↔ IsInteger chars := by
  unfold integer? at read
  split at read
  next digits =>
    simp only [Option.ite_none_right_eq_some, Option.some.injEq, Bool.and_eq_true] at read
    obtain ⟨-, rfl⟩ := read
    exact toString_negative_iff digits
  next unsigned =>
    obtain ⟨value, natural, rfl⟩ := Option.map_eq_some_iff.mp read
    rw [IsInteger.eq_2 _ unsigned]
    exact toString_natural_iff natural

end Enrolment.Decimal
