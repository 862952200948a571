import Enrolment.Proofs.Calendar.Dates
import Enrolment.Proofs.Decimal.Numerals
import Mathlib.Data.List.Forall2

set_option autoImplicit false

namespace Enrolment

section Padding

variable {width value : Nat}

theorem toList_padded (width value : Nat) : (padded width value).toList =
    List.replicate (width - (Nat.toDigits 10 value).length) '0' ++ Nat.toDigits 10 value :=
  String.toList_ofList

theorem length_padded (positive : 0 < width) (short : value < 10 ^ width) :
    (padded width value).toList.length = width := by
  have fits := (Nat.length_toDigits_le_iff (by decide) positive).mpr short
  rw [toList_padded, List.length_append, List.length_replicate, Nat.sub_add_cancel fits]

theorem allDigits_padded (width value : Nat) :
    Decimal.allDigits (padded width value).toList = true := by
  obtain ⟨decimal, -⟩ := Decimal.isNumeral_toDigits value
  simp only [Decimal.allDigits, Bool.and_eq_true] at decimal ⊢
  rw [toList_padded, List.all_append, decimal.2, Bool.and_true]
  exact ⟨by simp, by simp [isAsciiDigit]⟩

theorem digitsValue_padded (width value : Nat) :
    Decimal.digitsValue (padded width value).toList = value := by
  rw [Decimal.digitsValue_eq, toList_padded, Nat.ofDigitChars_append,
    Nat.ofDigitChars_replicate_zero, Nat.mul_zero, Nat.ofDigitChars_ten_toDigits]

end Padding

def numbers? : List (Nat × Char) → List Char → Option (List Nat)
  | [], chars => if chars = [] then some [] else none
  | (width, sign) :: more, chars =>
    let digits := chars.take width
    if digits.length = width ∧ Decimal.allDigits digits ∧ (chars.drop width).head? = some sign then
      (numbers? more (chars.drop (width + 1))).map (Decimal.digitsValue digits :: ·)
    else none

def writeNumbers : List (Nat × Char) → List Nat → List Char
  | (width, sign) :: more, value :: values =>
    (padded width value).toList ++ sign :: writeNumbers more values
  | _, _ => []

def FitsPart (part : Nat × Char) (value : Nat) : Prop := 0 < part.1 ∧ value < 10 ^ part.1

theorem numbers?_writeNumbers {parts : List (Nat × Char)} {values : List Nat}
    (fit : List.Forall₂ FitsPart parts values) :
    numbers? parts (writeNumbers parts values) = some values := by
  induction fit with
  | nil => rfl
  | @cons part value more values fits _ ih =>
    obtain ⟨width, sign⟩ := part
    have length := length_padded fits.1 fits.2
    have front : (writeNumbers ((width, sign) :: more) (value :: values)).take width =
        (padded width value).toList := List.take_left' length
    have behind : (writeNumbers ((width, sign) :: more) (value :: values)).drop width =
        sign :: writeNumbers more values := List.drop_left' length
    rw [numbers?, front, ← List.drop_drop, behind, if_pos ⟨length, allDigits_padded _ _, rfl⟩]
    simp [ih, digitsValue_padded]

namespace Instant

def layout : List (Nat × Char) :=
  [(4, '-'), (2, '-'), (2, 'T'), (2, ':'), (2, ':'), (2, '.'), (3, 'Z')]

-- The instant that a date and a time of day in UTC denote. No minute has a leap second.
def ofText? (chars : List Char) : Option Instant :=
  match numbers? layout chars with
  | some [year, month, day, hour, minute, second, milli] => do
    let days ← Date.number? year month day
    if hour < 24 ∧ minute < 60 ∧ second < 60 then
      some (ofMillis ((days * 86400 + hour * 3600 + minute * 60 + second) * 1000 + milli))
    else none
  | _ => none

def IsDated (instant : Instant) : Prop :=
  Date.newYear 0 * 86400 ≤ instant.seconds ∧ instant.seconds < Date.newYear 10000 * 86400

theorem isDated_iff (instant : Instant) :
    instant.IsDated ↔ -62167219200 ≤ instant.seconds ∧ instant.seconds < 253402300800 := by
  rw [IsDated, Date.newYear_eq, Date.newYear_eq]
  rfl

theorem text_of_date {instant : Instant} {year month day : Nat} (short : year < 10000)
    (date : Date.ofDays (instant.seconds / 86400) = ⟨year, month, day⟩) {second : Nat}
    (time : instant.seconds % 86400 = second) :
    instant.text.toList = writeNumbers layout
      [year, month, day, second / 3600, second / 60 % 60, second % 60,
        instant.nanos / 1000000] := by
  have digits : yearText year = padded 4 year := by
    rw [yearText, if_pos (by omega), Int.toNat_natCast]
  simp only [text, date, time, digits, Int.toNat_natCast]
  simp [writeNumbers, layout, toString]

theorem ofText?_text {instant : Instant} (dated : instant.IsDated) :
    ofText? instant.text.toList = some (ofMillis instant.millis) := by
  obtain ⟨lower, upper⟩ := dated
  obtain ⟨year, month, day, date, number⟩ :=
    Date.number?_ofDays (instant.seconds / 86400) (by omega)
  obtain ⟨second, time⟩ : ∃ second : Nat, instant.seconds % 86400 = second :=
    Int.eq_ofNat_of_zero_le (Int.emod_nonneg _ (by decide))
  have short : year < 10000 := Date.year_lt_of_number? number (by omega)
  obtain ⟨months, days⟩ := Date.bounds_of_number? number
  have fraction := instant.nanos_lt
  have fit : List.Forall₂ FitsPart layout [year, month, day, second / 3600, second / 60 % 60,
      second % 60, instant.nanos / 1000000] := by
    simp only [layout, FitsPart, List.forall₂_cons, List.forall₂_nil_left_iff, and_true]
    omega
  have whole : ((instant.seconds / 86400 * 86400 + (second / 3600 : Nat) * 3600 +
      (second / 60 % 60 : Nat) * 60 + (second % 60 : Nat)) * 1000 +
      (instant.nanos / 1000000 : Nat) : Int) = instant.millis := by
    unfold millis
    omega
  rw [text_of_date short date time, ofText?, numbers?_writeNumbers fit]
  simp only [number, bind, Option.bind]
  rw [if_pos (by omega), whole]

example : ofText? "1969-12-31T23:59:59.999Z".toList = some (ofMillis (-1)) := by decide +kernel

end Instant

end Enrolment
