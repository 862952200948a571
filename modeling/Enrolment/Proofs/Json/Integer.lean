import Enrolment.Json.Record
import Enrolment.Json.Writer
import Enrolment.Proofs.Text.Bytes
import Mathlib.Algebra.Group.Int.Defs

set_option autoImplicit false

namespace Enrolment.Json

open Bytes (ofChars)

def digitBytes (value : Nat) : Bytes := ofChars (Nat.toDigits 10 value)

def EndsNumber (rest : Bytes) : Prop :=
  ∀ byte ∈ rest.head?, isDigit byte = false ∧ byte ≠ 46 ∧ isExponentLetter byte = false

def accumulate (value : Nat) (digit : UInt8) : Nat := value * 10 + digitValue digit

theorem le_accumulate (digits : Bytes) (value : Nat) : value ≤ digits.foldl accumulate value := by
  induction digits generalizing value with
  | nil => exact Nat.le_refl value
  | cons digit more ih =>
    have step : value ≤ accumulate value digit := by
      unfold accumulate
      omega
    exact Nat.le_trans step (ih (accumulate value digit))

theorem scanDigits_digits (digits : Bytes) (decimal : ∀ byte ∈ digits, isDigit byte = true)
    (value kept : Nat) (rest : Bytes) (ends : EndsNumber rest)
    (small : digits.foldl accumulate value < significandLimit) :
    scanDigits value kept 0 (digits ++ rest) =
      ⟨digits.foldl accumulate value, kept + digits.length, 0, rest⟩ := by
  -- Values only grow on the way, so the bound on the last one holds at every digit.
  induction digits generalizing value kept with
  | nil =>
    cases rest with
    | nil => rfl
    | cons byte more => simp [scanDigits, (ends byte rfl).1]
  | cons digit more ih =>
    have isDecimal := decimal digit (by simp)
    have within : value * 10 + digitValue digit < significandLimit :=
      Nat.lt_of_le_of_lt (le_accumulate more _) small
    have later := ih (fun byte member => decimal byte (List.mem_cons_of_mem _ member))
      (accumulate value digit) (kept + 1) small
    simp only [List.cons_append, scanDigits, isDecimal, within, decide_true, Bool.and_self,
      if_true, List.foldl_cons, List.length_cons]
    rw [show value * 10 + digitValue digit = accumulate value digit from rfl, later]
    simp only [Digits.mk.injEq, and_true, true_and]
    omega

def asciiDigit (digit : Nat) : UInt8 := UInt8.ofNat (48 + digit)

theorem isDigit_asciiDigit : ∀ digit < 10, isDigit (asciiDigit digit) = true := by decide

theorem digitValue_asciiDigit : ∀ digit < 10, digitValue (asciiDigit digit) = digit := by decide

theorem ofChars_digitChar (digit : Nat) (small : digit < 10) :
    ofChars [digit.digitChar] = [asciiDigit digit] := by
  have code := Nat.toNat_digitChar_of_lt_ten small
  simp [ofChars, Bytes.utf8EncodeChar_ascii digit.digitChar (by omega), code, asciiDigit]

theorem digitBytes_digit (digit : Nat) (small : digit < 10) :
    digitBytes digit = [asciiDigit digit] := by
  rw [digitBytes, Nat.toDigits_of_lt_base small, ofChars_digitChar digit small]

theorem digitBytes_long (value : Nat) (long : 10 ≤ value) :
    digitBytes value = digitBytes (value / 10) ++ [asciiDigit (value % 10)] := by
  rw [digitBytes, Nat.toDigits_of_base_le (by decide) long, Bytes.ofChars_append,
    ofChars_digitChar _ (Nat.mod_lt _ (by decide)), digitBytes]

theorem digitBytes_decimal (value : Nat) : ∀ byte ∈ digitBytes value, isDigit byte = true := by
  induction value using Nat.strongRecOn with
  | ind value ih =>
    by_cases short : value < 10
    · rw [digitBytes_digit value short]
      simpa using isDigit_asciiDigit value short
    · rw [digitBytes_long value (by omega)]
      intro byte member
      rcases List.mem_append.mp member with early | last
      · exact ih (value / 10) (by omega) byte early
      · obtain rfl := List.mem_singleton.mp last
        exact isDigit_asciiDigit _ (Nat.mod_lt _ (by decide))

theorem foldl_digitBytes (value : Nat) : (digitBytes value).foldl accumulate 0 = value := by
  induction value using Nat.strongRecOn with
  | ind value ih =>
    by_cases short : value < 10
    · simp [digitBytes_digit value short, accumulate, digitValue_asciiDigit value short]
    · have lead := ih (value / 10) (by omega)
      rw [digitBytes_long value (by omega), List.foldl_append, lead]
      simp only [List.foldl_cons, List.foldl_nil, accumulate,
        digitValue_asciiDigit _ (Nat.mod_lt _ (by decide))]
      omega

-- Only zero itself begins with a zero, so no number is refused for a leading zero.
theorem digitBytes_head (value : Nat) (positive : 0 < value) :
    ∃ digit more, 0 < digit ∧ digit < 10 ∧ digitBytes value = asciiDigit digit :: more := by
  induction value using Nat.strongRecOn with
  | ind value ih =>
    by_cases short : value < 10
    · exact ⟨value, [], positive, short, digitBytes_digit value short⟩
    · obtain ⟨digit, more, nonzero, small, lead⟩ := ih (value / 10) (by omega) (by omega)
      refine ⟨digit, more ++ [asciiDigit (value % 10)], nonzero, small, ?_⟩
      rw [digitBytes_long value (by omega), lead, List.cons_append]

theorem asciiDigit_ne_zero : ∀ digit < 10, 0 < digit → asciiDigit digit ≠ 48 := by decide

theorem asciiDigit_visible :
    ∀ digit < 10, isBlank (asciiDigit digit) = false ∧ asciiDigit digit ≠ 45 := by decide

theorem numberTail_whole (isNegative : Bool) (value kept : Nat) (rest : Bytes)
    (ends : EndsNumber rest) :
    numberTail isNegative ⟨value, kept, 0, rest⟩ = .ok (integerNumber isNegative value, rest) := by
  cases rest with
  | nil => rfl
  | cons byte more =>
    obtain ⟨-, noPoint, noExponent⟩ := ends byte rfl
    simp [numberTail, noPoint, noExponent]

theorem unsignedNumber_digitBytes (isNegative : Bool) (value : Nat)
    (small : value < significandLimit) (rest : Bytes) (ends : EndsNumber rest) :
    unsignedNumber isNegative (digitBytes value ++ rest) =
      .ok (integerNumber isNegative value, rest) := by
  by_cases zero : value = 0
  · subst zero
    rw [digitBytes_digit 0 (by decide)]
    cases rest with
    | nil => exact numberTail_whole isNegative 0 1 [] ends
    | cons byte more =>
      simp [unsignedNumber, asciiDigit, (ends byte rfl).1, numberTail_whole isNegative 0 1 _ ends]
  · obtain ⟨digit, more, nonzero, below, lead⟩ := digitBytes_head value (by omega)
    have scanned := scanDigits_digits (digitBytes value) (digitBytes_decimal value) 0 0 rest ends
      (by rwa [foldl_digitBytes])
    rw [foldl_digitBytes, lead, List.cons_append] at scanned
    rw [lead, List.cons_append]
    simp only [unsignedNumber, asciiDigit_ne_zero digit below nonzero,
      isDigit_asciiDigit digit below, if_true, if_false, scanned]
    exact numberTail_whole isNegative value _ rest ends

theorem digitBytes_first (value : Nat) :
    ∃ digit more, digit < 10 ∧ digitBytes value = asciiDigit digit :: more := by
  by_cases zero : value = 0
  · exact ⟨0, [], by decide, zero ▸ digitBytes_digit 0 (by decide)⟩
  · obtain ⟨digit, more, -, below, lead⟩ := digitBytes_head value (by omega)
    exact ⟨digit, more, below, lead⟩

theorem number_natural (value : Nat) (small : value < significandLimit) (rest : Bytes)
    (ends : EndsNumber rest) :
    number (digitBytes value ++ rest) = .ok (.natural value, rest) := by
  have read := unsignedNumber_digitBytes false value small rest ends
  obtain ⟨digit, more, below, lead⟩ := digitBytes_first value
  rw [lead, List.cons_append] at read ⊢
  rw [number.eq_2 _ (fun other same => (asciiDigit_visible digit below).2 (List.cons.inj same).1),
    read]
  rfl

theorem number_negative (value : Nat) (positive : 0 < value) (small : value ≤ UInt64.size / 2)
    (rest : Bytes) (ends : EndsNumber rest) :
    number (45 :: (digitBytes value ++ rest)) = .ok (.negative value, rest) := by
  have within : value < significandLimit := by
    simp only [significandLimit, UInt64.size] at small ⊢
    omega
  rw [number, unsignedNumber_digitBytes true value within rest ends]
  simp [integerNumber, positive, small]

theorem ofString_integerText (value : Int) :
    Bytes.ofString (integerText value) =
      if 0 ≤ value then digitBytes value.toNat else 45 :: digitBytes value.natAbs := by
  -- The text follows the constructors of integers, and what is read follows the sign.
  cases value with
  | ofNat value =>
    have text : integerText (Int.ofNat value) = String.ofList (Nat.toDigits 10 value) := rfl
    rw [text, Bytes.ofString_ofList]
    rfl
  | negSucc value =>
    have text : integerText (Int.negSucc value) =
      "-" ++ String.ofList (Nat.toDigits 10 (value + 1)) := rfl
    have sign : Bytes.ofString "-" = [45] := by
      rw [Bytes.ofString_eq]
      decide
    rw [text, Bytes.ofString_append, sign, Bytes.ofString_ofList]
    rfl

theorem integer_integerText (value : Int) (lower : -(2 ^ 63) ≤ value) (upper : value < 2 ^ 63)
    (rest : Bytes) (ends : EndsNumber rest) :
    integer (Bytes.ofString (integerText value) ++ rest) = .ok (value, rest) := by
  rw [ofString_integerText]
  by_cases natural : 0 ≤ value
  · have read := number_natural value.toNat
      (by simp only [significandLimit, UInt64.size]; omega) rest ends
    have half : value.toNat < UInt64.size / 2 := by
      simp only [UInt64.size]
      omega
    have back : ((value.toNat : Nat) : Int) = value := Int.toNat_of_nonneg natural
    obtain ⟨digit, more, below, lead⟩ := digitBytes_first value.toNat
    rw [if_pos natural]
    rw [lead, List.cons_append] at read ⊢
    simp [integer, skipBlank, (asciiDigit_visible digit below).1, isDigit_asciiDigit digit below,
      read, half, back]
  · have read := number_negative value.natAbs (by omega)
      (by simp only [UInt64.size]; omega) rest ends
    have back : -((value.natAbs : Nat) : Int) = value := by omega
    have visible : isBlank 45 = false := by decide
    rw [if_neg natural, List.cons_append]
    generalize value.natAbs = magnitude at read back ⊢
    simp [integer, skipBlank, visible, read, back]

end Enrolment.Json
