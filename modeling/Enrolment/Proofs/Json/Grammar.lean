import Enrolment.Proofs.Json.Spelling
import Enrolment.Proofs.Json.Value
import Mathlib.Data.List.DropRight

set_option autoImplicit false

namespace Enrolment.Json

def IsBlanks (bytes : Bytes) : Prop := ∀ byte ∈ bytes, isBlank byte = true

theorem skipBlank_append {blanks : Bytes} (isBlanks : IsBlanks blanks) (bytes : Bytes) :
    skipBlank (blanks ++ bytes) = skipBlank bytes :=
  List.dropWhile_append_of_pos isBlanks

theorem EndsNumber.after {blanks rest : Bytes} (isBlanks : IsBlanks blanks)
    (ends : EndsNumber rest) : EndsNumber (blanks ++ rest) := by
  cases blanks with
  | nil => exact ends
  | cons blank more =>
    rintro byte ⟨⟩
    have spaced := isBlanks blank List.mem_cons_self
    simp only [isBlank, Bool.or_eq_true, beq_iff_eq] at spaced
    obtain ((rfl | rfl) | rfl) | rfl := spaced <;> decide

def IsDigits (bytes : Bytes) : Prop := bytes ≠ [] ∧ ∀ byte ∈ bytes, isDigit byte = true

def IsWhole (bytes : Bytes) : Prop := IsDigits bytes ∧ (bytes.head? = some 48 → bytes = [48])

def IsFraction (bytes : Bytes) : Prop :=
  bytes = [] ∨ ∃ digits, IsDigits digits ∧ bytes = 46 :: digits

def IsExponent (bytes : Bytes) : Prop :=
  bytes = [] ∨ ∃ letter sign digits, isExponentLetter letter = true ∧ sign ∈ [[], [43], [45]] ∧
    IsDigits digits ∧ bytes = letter :: (sign ++ digits)

def IsNumber (bytes : Bytes) : Prop :=
  ∃ sign whole fraction exponent, sign ∈ [[], [45]] ∧ IsWhole whole ∧ IsFraction fraction ∧
    IsExponent exponent ∧ bytes = sign ++ (whole ++ (fraction ++ exponent))

theorem ne_of_isDigit {byte other : UInt8} (digit : isDigit byte = true)
    (noDigit : isDigit other = false) : byte ≠ other := by
  rintro rfl
  rw [digit] at noDigit
  cases noDigit

def EndsDigits (rest : Bytes) : Prop := ∀ byte ∈ rest.head?, isDigit byte = false

theorem dropWhile_digits {digits rest : Bytes} (decimal : ∀ byte ∈ digits, isDigit byte = true)
    (ends : EndsDigits rest) : (digits ++ rest).dropWhile isDigit = rest := by
  rw [List.dropWhile_append_of_pos decimal]
  cases rest with
  | nil => rfl
  | cons byte more => rw [List.dropWhile_cons_of_neg (by simp [ends byte rfl])]

theorem IsDigits.eq_cons {digits : Bytes} (isDigits : IsDigits digits) :
    ∃ digit more, digits = digit :: more ∧ isDigit digit = true ∧
      ∀ byte ∈ more, isDigit byte = true := by
  obtain ⟨written, decimal⟩ := isDigits
  obtain ⟨digit, more, rfl⟩ := List.exists_cons_of_ne_nil written
  obtain ⟨first, later⟩ := List.forall_mem_cons.mp decimal
  exact ⟨digit, more, rfl, first, later⟩

theorem skipExponent_digits {sign digits rest : Bytes} (isSign : sign ∈ [[], [43], [45]])
    (isDigits : IsDigits digits) (ends : EndsDigits rest) :
    skipExponent (sign ++ digits ++ rest) = .ok rest := by
  have dropped := dropWhile_digits isDigits.2 ends
  obtain ⟨digit, more, rfl, decimal, -⟩ := isDigits.eq_cons
  have noPlus : digit ≠ 43 := ne_of_isDigit decimal (by decide)
  have noMinus : digit ≠ 45 := ne_of_isDigit decimal (by decide)
  rw [List.cons_append] at dropped
  simp only [List.mem_cons, List.not_mem_nil, or_false] at isSign
  obtain rfl | rfl | rfl := isSign <;> simp [skipExponent, noPlus, noMinus, decimal, dropped]

theorem skipAfterFraction_exponent {exponent rest : Bytes} (isExponent : IsExponent exponent)
    (ends : EndsNumber rest) : skipAfterFraction (exponent ++ rest) = .ok rest := by
  rcases isExponent with rfl | ⟨letter, sign, digits, isLetter, isSign, isDigits, rfl⟩
  · cases rest with
    | nil => rfl
    | cons byte more => simp [skipAfterFraction, (ends byte rfl).2.2]
  · have endsDigits : EndsDigits rest := fun byte first => (ends byte first).1
    have skipped := skipExponent_digits isSign isDigits endsDigits
    simpa [skipAfterFraction, isLetter] using skipped

theorem head_exponent {exponent rest : Bytes} (isExponent : IsExponent exponent)
    (ends : EndsNumber rest) :
    ∀ byte ∈ (exponent ++ rest).head?, isDigit byte = false ∧ byte ≠ 46 := by
  rcases isExponent with rfl | ⟨letter, sign, digits, isLetter, -, -, rfl⟩
  · exact fun byte first => ⟨(ends byte first).1, (ends byte first).2.1⟩
  · rintro byte ⟨⟩
    simp only [isExponentLetter, Bool.or_eq_true, beq_iff_eq] at isLetter
    obtain rfl | rfl := isLetter <;> decide

theorem endsDigits_exponent {exponent rest : Bytes} (isExponent : IsExponent exponent)
    (ends : EndsNumber rest) : EndsDigits (exponent ++ rest) :=
  fun byte first => (head_exponent isExponent ends byte first).1

theorem endsDigits_fraction {fraction rest : Bytes} (isFraction : IsFraction fraction)
    (ends : EndsDigits rest) : EndsDigits (fraction ++ rest) := by
  rcases isFraction with rfl | ⟨digits, -, rfl⟩
  · exact ends
  · rintro byte ⟨⟩
    decide

theorem skipUnsigned_number {whole fraction exponent rest : Bytes} (isWhole : IsWhole whole)
    (isFraction : IsFraction fraction) (isExponent : IsExponent exponent)
    (ends : EndsNumber rest) :
    skipUnsigned (whole ++ (fraction ++ (exponent ++ rest))) = .ok rest := by
  have endsWhole := endsDigits_fraction isFraction (endsDigits_exponent isExponent ends)
  obtain ⟨isDigits, noLeadingZero⟩ := isWhole
  obtain ⟨digit, more, rfl, decimal, later⟩ := isDigits.eq_cons
  have after (tail : Bytes) (ends : EndsDigits tail) :
      (if digit = 48 then more ++ tail else (more ++ tail).dropWhile isDigit) = tail := by
    split
    next zero =>
      have short : more = [] := by simpa [zero] using noLeadingZero
      rw [short, List.nil_append]
    next => exact dropWhile_digits later ends
  rw [List.cons_append, skipUnsigned]
  simp only [decimal, Bool.not_true, Bool.false_eq_true, if_false, after _ endsWhole]
  rcases isFraction with rfl | ⟨digits, isDigits, rfl⟩
  · have skipped := skipAfterFraction_exponent isExponent ends
    rw [List.nil_append] at endsWhole ⊢
    cases tail : exponent ++ rest with
    | nil => simpa [tail, skipAfterFraction] using skipped
    | cons byte more =>
      have head := head_exponent isExponent ends
      rw [tail] at head skipped
      obtain ⟨noDigit, noPoint⟩ := head byte rfl
      simpa [noDigit, noPoint, skipAfterFraction] using skipped
  · have dropped := dropWhile_digits isDigits.2 (endsDigits_exponent isExponent ends)
    obtain ⟨digit, more, rfl, decimal, -⟩ := isDigits.eq_cons
    rw [List.cons_append] at dropped
    have point : isDigit 46 = false := by decide
    simp [point, decimal, dropped, skipAfterFraction_exponent isExponent ends]

theorem skipScalar_number {number rest : Bytes} (isNumber : IsNumber number)
    (ends : EndsNumber rest) : skipScalar (number ++ rest) = .ok rest := by
  obtain ⟨sign, whole, fraction, exponent, isSign, isWhole, isFraction, isExponent, rfl⟩ := isNumber
  have skipped := skipUnsigned_number isWhole isFraction isExponent ends
  obtain ⟨digit, more, rfl, decimal, -⟩ := isWhole.1.eq_cons
  simp only [List.mem_cons, List.not_mem_nil, or_false] at isSign
  obtain rfl | rfl := isSign
  · have apart (other : UInt8) (noDigit : isDigit other = false) : digit ≠ other :=
      ne_of_isDigit decimal noDigit
    simpa [skipScalar, apart 110 (by decide), apart 116 (by decide), apart 102 (by decide),
      apart 34 (by decide), apart 45 (by decide), decimal] using skipped
  · simpa [skipScalar] using skipped

inductive IsScalar : Bytes → Prop
  | word {bytes : Bytes}
      (listed : bytes ∈ [110 :: literalNull, 116 :: literalTrue, 102 :: literalFalse]) :
      IsScalar bytes
  | string {contents : Bytes} (isContents : IsContents contents) :
      IsScalar (34 :: (contents ++ [34]))
  | number {bytes : Bytes} (isNumber : IsNumber bytes) : IsScalar bytes

theorem literal_self (letters rest : Bytes) : literal letters (letters ++ rest) = .ok rest := by
  induction letters with
  | nil => rfl
  | cons letter more ih => simpa [literal] using ih

theorem skipScalar_scalar {scalar rest : Bytes} (isScalar : IsScalar scalar)
    (ends : EndsNumber rest) : skipScalar (scalar ++ rest) = .ok rest := by
  cases isScalar with
  | word listed =>
    simp only [List.mem_cons, List.not_mem_nil, or_false] at listed
    obtain rfl | rfl | rfl := listed
    · exact literal_self literalNull rest
    · exact literal_self literalTrue rest
    · exact literal_self literalFalse rest
  | string isContents =>
    have skipped := skipString_contents isContents rest
    simpa [skipScalar] using skipped
  | number isNumber => exact skipScalar_number isNumber ends

theorem IsNumber.eq_cons {number : Bytes} (isNumber : IsNumber number) :
    ∃ byte more, number = byte :: more ∧ (byte = 45 ∨ isDigit byte = true) := by
  obtain ⟨sign, whole, fraction, exponent, isSign, isWhole, -, -, rfl⟩ := isNumber
  obtain ⟨digit, more, rfl, decimal, -⟩ := isWhole.1.eq_cons
  simp only [List.mem_cons, List.not_mem_nil, or_false] at isSign
  obtain rfl | rfl := isSign
  · exact ⟨digit, _, rfl, .inr decimal⟩
  · exact ⟨45, _, rfl, .inl rfl⟩

theorem isBlank_of_isDigit {byte : UInt8} (decimal : isDigit byte = true) :
    isBlank byte = false := by
  have apart (other : UInt8) (noDigit : isDigit other = false) : byte ≠ other :=
    ne_of_isDigit decimal noDigit
  simp [isBlank, apart 32 (by decide), apart 9 (by decide), apart 10 (by decide),
    apart 13 (by decide)]

theorem IsScalar.eq_cons {scalar : Bytes} (isScalar : IsScalar scalar) :
    ∃ byte more, scalar = byte :: more ∧ isBlank byte = false ∧ (byte ≠ 91 ∧ byte ≠ 123) ∧
      byte ≠ 93 ∧ byte ≠ 125 := by
  cases isScalar with
  | word listed =>
    simp only [List.mem_cons, List.not_mem_nil, or_false] at listed
    obtain rfl | rfl | rfl := listed <;> exact ⟨_, _, rfl, by decide⟩
  | string => exact ⟨34, _, rfl, by decide⟩
  | number isNumber =>
    obtain ⟨byte, more, rfl, rfl | decimal⟩ := isNumber.eq_cons
    · exact ⟨45, more, rfl, by decide⟩
    · have apart (other : UInt8) (noDigit : isDigit other = false) : byte ≠ other :=
        ne_of_isDigit decimal noDigit
      exact ⟨byte, more, rfl, isBlank_of_isDigit decimal,
        ⟨apart 91 (by decide), apart 123 (by decide)⟩, apart 93 (by decide), apart 125 (by decide)⟩

def Open.opening : Open → UInt8
  | .list => 91
  | .object => 123

-- What the grammar derives: a value, an entry of a bracket with the blanks around it, and all the
-- entries of a bracket.
inductive Part
  | value
  | entry (bracket : Open)
  | entries (bracket : Open)

inductive Writes : Part → Bytes → Prop
  | scalar {bytes : Bytes} (isScalar : IsScalar bytes) : Writes .value bytes
  | empty (bracket : Open) {blanks : Bytes} (isBlanks : IsBlanks blanks) :
      Writes .value (bracket.opening :: (blanks ++ [bracket.closing]))
  | bracket (bracket : Open) {inside : Bytes} (writes : Writes (.entries bracket) inside) :
      Writes .value (bracket.opening :: (inside ++ [bracket.closing]))
  | element {before value after : Bytes} (isBefore : IsBlanks before)
      (writes : Writes .value value) (isAfter : IsBlanks after) :
      Writes (.entry .list) (before ++ (value ++ after))
  | member {before name gap space value after : Bytes} (isBefore : IsBlanks before)
      (isName : IsContents name) (isGap : IsBlanks gap) (isSpace : IsBlanks space)
      (writes : Writes .value value) (isAfter : IsBlanks after) :
      Writes (.entry .object)
        (before ++ 34 :: (name ++ 34 :: (gap ++ 58 :: (space ++ (value ++ after)))))
  | last {bracket : Open} {entry : Bytes} (writes : Writes (.entry bracket) entry) :
      Writes (.entries bracket) entry
  | more {bracket : Open} {entry later : Bytes} (writes : Writes (.entry bracket) entry)
      (writesLater : Writes (.entries bracket) later) :
      Writes (.entries bracket) (entry ++ 44 :: later)

def Opens (bytes : Bytes) : Prop :=
  ∃ byte more, skipBlank bytes = byte :: more ∧ byte ≠ 93 ∧ byte ≠ 125

theorem Opens.after {blanks bytes : Bytes} (isBlanks : IsBlanks blanks) (opens : Opens bytes) :
    Opens (blanks ++ bytes) := by
  rwa [Opens, skipBlank_append isBlanks]

theorem opens_visible {byte : UInt8} (visible : isBlank byte = false)
    (goesOn : byte ≠ 93 ∧ byte ≠ 125) (more : Bytes) : Opens (byte :: more) :=
  ⟨byte, more, skipBlank_visible visible more, goesOn⟩

theorem opens_part {part : Part} {bytes : Bytes} (writes : Writes part bytes) (rest : Bytes) :
    Opens (bytes ++ rest) := by
  induction writes generalizing rest with
  | scalar isScalar =>
    obtain ⟨byte, more, rfl, visible, -, goesOn⟩ := isScalar.eq_cons
    exact opens_visible visible goesOn _
  | empty bracket => cases bracket <;> exact opens_visible (by decide) (by decide) _
  | bracket bracket => cases bracket <;> exact opens_visible (by decide) (by decide) _
  | element isBefore writes isAfter ih =>
    rw [List.append_assoc, List.append_assoc]
    exact .after isBefore (ih _)
  | member isBefore =>
    rw [List.append_assoc]
    exact .after isBefore (opens_visible (by decide) (by decide) _)
  | last writes ih => exact ih rest
  | more writes writesLater ih ihLater =>
    rw [List.append_assoc]
    exact ih _

theorem skipNested_congr {left right : Bytes} (same : skipBlank left = skipBlank right)
    (fuel : Nat) (stack : List Open) (expect : Expect) :
    skipNested fuel stack expect left = skipNested fuel stack expect right := by
  cases fuel with
  | zero => rfl
  | succ fuel => cases expect <;> simp only [skipNested, skipKey, same]

def resume (fuel : Nat) (stack : List Open) (rest : Bytes) : Except Fault Bytes :=
  if stack.isEmpty then .ok rest else skipNested fuel stack .separator rest

section Steps

variable (fuel : Nat) (bracket : Open) (stack : List Open) (rest : Bytes)

theorem skipNested_scalar {scalar : Bytes} (isScalar : IsScalar scalar)
    (ends : EndsNumber rest) :
    skipNested (fuel + 1) stack .value (scalar ++ rest) = resume fuel stack rest := by
  have skipped := skipScalar_scalar isScalar ends
  obtain ⟨byte, more, rfl, visible, ⟨noList, noObject⟩, -⟩ := isScalar.eq_cons
  rw [List.cons_append] at skipped ⊢
  simp [skipNested, skipBlank_visible visible, noList, noObject, skipped, resume]

theorem skipNested_opening :
    skipNested (fuel + 1) stack .value (bracket.opening :: rest) =
      skipNested fuel (bracket :: stack) .entry rest := by
  cases bracket <;> rfl

theorem skipNested_closing (expect : Expect) (among : expect = .entry ∨ expect = .separator) :
    skipNested (fuel + 1) (bracket :: stack) expect (bracket.closing :: rest) =
      resume fuel stack rest := by
  rcases among with rfl | rfl <;> cases bracket <;> rfl

theorem skipNested_comma :
    skipNested (fuel + 1) (bracket :: stack) .separator (44 :: rest) =
      skipNested fuel (bracket :: stack) bracket.first rest := rfl

theorem skipNested_first {rest : Bytes} (opens : Opens rest) :
    skipNested (fuel + 1) (bracket :: stack) .entry rest =
      skipNested fuel (bracket :: stack) bracket.first rest := by
  obtain ⟨byte, more, visible, noList, noObject⟩ := opens
  have goesOn : byte ≠ bracket.closing := by cases bracket <;> assumption
  have same : skipBlank (skipBlank rest) = skipBlank rest := List.dropWhile_idempotent isBlank rest
  rw [← skipNested_congr same fuel _ bracket.first]
  simp [skipNested, visible, goesOn]

theorem skipNested_key {name gap : Bytes} (isName : IsContents name) (isGap : IsBlanks gap) :
    skipNested (fuel + 1) stack .key (34 :: (name ++ 34 :: (gap ++ 58 :: rest))) =
      skipNested fuel stack .value rest := by
  have skipped := skipString_contents isName (gap ++ 58 :: rest)
  have quote : isBlank 34 = false := by decide
  have colon : isBlank 58 = false := by decide
  simp only [skipNested, skipKey, skipBlank_visible quote, skipped, skipBlank_append isGap,
    skipBlank_visible colon]

end Steps

def Skips (bytes : Bytes) : Part → Prop
  | .value => ∃ cost ≤ 2 * bytes.length, ∀ fuel stack rest, EndsNumber rest →
      skipNested (fuel + cost) stack .value (bytes ++ rest) = resume fuel stack rest
  | .entry bracket => ∃ cost ≤ 2 * bytes.length, ∀ fuel outer rest, EndsNumber rest →
      skipNested (fuel + cost) (bracket :: outer) bracket.first (bytes ++ rest) =
        skipNested fuel (bracket :: outer) .separator rest
  | .entries bracket => ∃ cost ≤ 2 * bytes.length + 1, ∀ fuel outer rest,
      skipNested (fuel + cost) (bracket :: outer) bracket.first (bytes ++ bracket.closing :: rest) =
        resume fuel outer rest

theorem endsNumber_comma (rest : Bytes) : EndsNumber (44 :: rest) := by
  rintro byte ⟨⟩
  decide

theorem endsNumber_closing (bracket : Open) (rest : Bytes) :
    EndsNumber (bracket.closing :: rest) := by
  cases bracket <;> (rintro byte ⟨⟩; decide)

theorem skips {part : Part} {bytes : Bytes} (writes : Writes part bytes) : Skips bytes part := by
  induction writes with
  | scalar isScalar =>
    obtain ⟨byte, more, rfl, -⟩ := isScalar.eq_cons
    exact ⟨1, by simp only [List.length_cons]; omega, fun fuel stack rest ends =>
      skipNested_scalar fuel stack rest isScalar ends⟩
  | empty bracket isBlanks =>
    refine ⟨2, by simp, fun fuel stack rest _ => ?_⟩
    rw [List.cons_append, List.append_assoc, skipNested_opening (fuel + 1),
      skipNested_congr (skipBlank_append isBlanks _)]
    exact skipNested_closing fuel bracket stack rest .entry (.inl rfl)
  | bracket bracket writes ih =>
    obtain ⟨cost, bound, skip⟩ := ih
    refine ⟨cost + 2, by simp; omega, fun fuel stack rest _ => ?_⟩
    rw [List.cons_append, List.append_assoc, ← Nat.add_assoc, skipNested_opening (fuel + cost + 1),
      skipNested_first (fuel + cost) bracket stack (opens_part writes _)]
    exact skip fuel stack rest
  | element isBefore writes isAfter ih =>
    obtain ⟨cost, bound, skip⟩ := ih
    refine ⟨cost, by simp; omega, fun fuel outer rest ends => ?_⟩
    rw [List.append_assoc, List.append_assoc, skipNested_congr (skipBlank_append isBefore _)]
    exact (skip fuel _ _ (ends.after isAfter)).trans
      (skipNested_congr (skipBlank_append isAfter rest) fuel _ _)
  | member isBefore isName isGap isSpace writes isAfter ih =>
    obtain ⟨cost, bound, skip⟩ := ih
    refine ⟨cost + 1, by simp; omega, fun fuel outer rest ends => ?_⟩
    simp only [List.append_assoc, List.cons_append]
    rw [skipNested_congr (skipBlank_append isBefore _)]
    refine (skipNested_key (fuel + cost) _ _ isName isGap).trans ?_
    rw [skipNested_congr (skipBlank_append isSpace _)]
    exact (skip fuel _ _ (ends.after isAfter)).trans
      (skipNested_congr (skipBlank_append isAfter rest) fuel _ _)
  | @last bracket entry writes ih =>
    obtain ⟨cost, bound, skip⟩ := ih
    refine ⟨cost + 1, by omega, fun fuel outer rest => ?_⟩
    rw [Nat.add_comm cost, ← Nat.add_assoc, skip _ _ _ (endsNumber_closing bracket rest)]
    exact skipNested_closing fuel bracket outer rest .separator (.inr rfl)
  | more writes writesLater ih ihLater =>
    obtain ⟨cost, bound, skip⟩ := ih
    obtain ⟨costLater, boundLater, skipLater⟩ := ihLater
    refine ⟨costLater + 1 + cost, by simp; omega, fun fuel outer rest => ?_⟩
    rw [List.append_assoc, List.cons_append, ← Nat.add_assoc, skip _ _ _ (endsNumber_comma _),
      ← Nat.add_assoc, skipNested_comma]
    exact skipLater fuel outer rest

theorem skipValue_value {value : Bytes} (writes : Writes .value value) {blanks rest : Bytes}
    (isBlanks : IsBlanks blanks) (ends : EndsNumber rest) :
    skipValue (blanks ++ (value ++ rest)) = .ok rest := by
  obtain ⟨cost, bound, skip⟩ := skips writes
  obtain ⟨fuel, enough⟩ : ∃ fuel, 3 * (blanks ++ (value ++ rest)).length + 3 = fuel + cost :=
    ⟨3 * (blanks ++ (value ++ rest)).length + 3 - cost, by simp; omega⟩
  rw [skipValue, enough, skipNested_congr (skipBlank_append isBlanks _), skip _ _ _ ends]
  rfl

end Enrolment.Json
