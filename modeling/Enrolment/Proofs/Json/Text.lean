import Enrolment.Json.Record
import Enrolment.Json.Writer
import Enrolment.Proofs.Text.Bytes
import Mathlib.Data.List.Forall2
import Mathlib.Tactic.IntervalCases

set_option autoImplicit false

namespace Enrolment.Json

open Bytes (ofChars ofChars_cons ofChars_append)

def IsPlain (byte : UInt8) : Prop := byte ≠ 34 ∧ byte ≠ 92 ∧ ¬byte < 32

theorem stringBody_plain (bytes : Bytes) (plain : ∀ byte ∈ bytes, IsPlain byte) (fuel : Nat)
    (read rest : Bytes) :
    stringBody (fuel + bytes.length) read (bytes ++ rest) =
      stringBody fuel (bytes.reverse ++ read) rest := by
  induction bytes generalizing read with
  | nil => rfl
  | cons byte more ih =>
    obtain ⟨noQuote, noBackslash, noControl⟩ := plain byte (by simp)
    have later := ih (fun other member => plain other (List.mem_cons_of_mem _ member))
      (byte :: read)
    simp only [List.length_cons, ← Nat.add_assoc, List.cons_append, stringBody, noQuote,
      noBackslash, noControl, if_false, later, List.reverse_cons, List.append_assoc,
      List.nil_append]

def IsEscape (char : Char) (bytes : Bytes) : Prop :=
  ∃ letters, bytes = 92 :: letters ∧
    ∀ rest, escape (letters ++ rest) = .ok (String.utf8EncodeChar char, rest)

theorem isEscape_control (char : Char) (control : char.toNat < 32) :
    IsEscape char (ofChars (escapeChar char)) := by
  have code : char = Char.ofNat char.toNat := (Char.ofNat_toNat char).symm
  generalize char.toNat = value at control code
  subst code
  interval_cases value <;> exact ⟨_, rfl, fun rest => rfl⟩

-- Bytes that the contents of a string are read from as this character: an escape, or the bytes of
-- the character itself, which end no string and start no escape.
def IsSpelling (char : Char) (bytes : Bytes) : Prop :=
  IsEscape char bytes ∨ bytes = String.utf8EncodeChar char ∧ ∀ byte ∈ bytes, IsPlain byte

-- Quote, backslash and controls are ASCII, and the bytes of all other characters are not.
theorem isPlain_utf8EncodeChar {char : Char} (visible : 32 ≤ char.toNat) (noQuote : char ≠ '"')
    (noBackslash : char ≠ '\\') : ∀ byte ∈ String.utf8EncodeChar char, IsPlain byte := by
  by_cases ascii : char.toNat < 128
  · have quoteCode : char.toNat ≠ 34 := fun same => noQuote (Char.ext (UInt32.toNat_inj.mp same))
    have slashCode : char.toNat ≠ 92 := fun same =>
      noBackslash (Char.ext (UInt32.toNat_inj.mp same))
    rw [Bytes.utf8EncodeChar_ascii char ascii]
    intro byte member
    obtain rfl := List.mem_singleton.mp member
    have value : (UInt8.ofNat char.toNat).toNat = char.toNat := by
      rw [UInt8.toNat_ofNat']
      omega
    refine ⟨fun same => quoteCode ?_, fun same => slashCode ?_, fun below => ?_⟩
    · rw [← value, same]
      rfl
    · rw [← value, same]
      rfl
    · have small : (UInt8.ofNat char.toNat).toNat < 32 := UInt8.lt_iff_toNat_lt.mp below
      omega
  · intro byte member
    have large := Bytes.utf8EncodeChar_foreign char (by omega) byte member
    refine ⟨?_, ?_, fun below => ?_⟩
    · rintro rfl
      exact absurd large (by decide)
    · rintro rfl
      exact absurd large (by decide)
    · have small : byte.toNat < 32 := UInt8.lt_iff_toNat_lt.mp below
      omega

theorem isSpelling_escapeChar (char : Char) : IsSpelling char (ofChars (escapeChar char)) := by
  by_cases quoted : char = '"'
  · subst quoted
    exact .inl ⟨[34], by decide, fun rest => rfl⟩
  by_cases slashed : char = '\\'
  · subst slashed
    exact .inl ⟨[92], by decide, fun rest => rfl⟩
  by_cases control : char.toNat < 32
  · exact .inl (isEscape_control char control)
  have code (value : Nat) (small : value < 32) : char.toNat ≠ value := by omega
  have named (other : Char) (small : other.toNat < 32) : char ≠ other := by
    rintro rfl
    exact control small
  have single : ofChars (escapeChar char) = String.utf8EncodeChar char := by
    simp [escapeChar, quoted, slashed, control, code 8, code 12, named '\n', named '\r', named '\t',
      ofChars]
  rw [single]
  exact .inr ⟨rfl, isPlain_utf8EncodeChar (by omega) quoted slashed⟩

theorem stringBody_char {char : Char} {bytes : Bytes} (spelling : IsSpelling char bytes)
    (fuel : Nat) (read rest : Bytes) (enough : (bytes ++ rest).length < fuel) :
    ∃ left, rest.length < left ∧
      stringBody fuel read (bytes ++ rest) =
        stringBody left ((String.utf8EncodeChar char).reverse ++ read) rest := by
  -- An escape costs one round; a plain character costs one for each of its bytes.
  rcases spelling with ⟨letters, rfl, escaped⟩ | ⟨rfl, plain⟩
  · obtain ⟨left, rfl⟩ : ∃ left, fuel = left + 1 := ⟨fuel - 1, by simp at enough; omega⟩
    refine ⟨left, by simp at enough; omega, ?_⟩
    simp [stringBody, escaped rest]
  · refine ⟨fuel - (String.utf8EncodeChar char).length, by simp at enough; simp; omega, ?_⟩
    have step := stringBody_plain _ plain (fuel - (String.utf8EncodeChar char).length) read rest
    rwa [Nat.sub_add_cancel (by simp at enough; simp; omega)] at step

theorem stringBody_spelled {chars : List Char} {spellings : List Bytes}
    (spelt : List.Forall₂ IsSpelling chars spellings) (fuel : Nat) (read rest : Bytes)
    (enough : (spellings.flatten ++ 34 :: rest).length < fuel) :
    stringBody fuel read (spellings.flatten ++ 34 :: rest) =
      .ok (read.reverse ++ ofChars chars, rest) := by
  induction spelt generalizing fuel read with
  | nil =>
    obtain ⟨left, rfl⟩ : ∃ left, fuel = left + 1 := ⟨fuel - 1, by simp at enough; omega⟩
    simp [stringBody]
  | cons spelling more ih =>
    rw [List.flatten_cons, List.append_assoc] at enough ⊢
    obtain ⟨left, remaining, step⟩ := stringBody_char spelling fuel read _ enough
    rw [step, ih left _ remaining, ofChars_cons]
    simp

theorem stringAfterQuote_spelled {chars : List Char} {spellings : List Bytes}
    (spelt : List.Forall₂ IsSpelling chars spellings) (rest : Bytes) :
    stringAfterQuote (spellings.flatten ++ 34 :: rest) = .ok (String.ofList chars, rest) := by
  have body := stringBody_spelled spelt _ [] rest (Nat.lt_succ_self _)
  simp only [List.reverse_nil, List.nil_append] at body
  rw [stringAfterQuote, body]
  simp only [bind, Except.bind, Bytes.toString?_ofChars]
  rfl

theorem stringAfterQuote_chars (chars : List Char) (rest : Bytes) :
    stringAfterQuote (ofChars (chars.flatMap escapeChar) ++ 34 :: rest) =
      .ok (String.ofList chars, rest) := by
  have spelt : List.Forall₂ IsSpelling chars (chars.map fun char => ofChars (escapeChar char)) :=
    List.forall₂_map_right_iff.mpr (List.forall₂_same.mpr fun char _ => isSpelling_escapeChar char)
  have bytes : (chars.map fun char => ofChars (escapeChar char)).flatten =
      ofChars (chars.flatMap escapeChar) := by
    simp only [← List.flatMap_def, ofChars, List.flatMap_assoc]
  rw [← bytes]
  exact stringAfterQuote_spelled spelt rest

theorem ofString_quote (text : String) :
    Bytes.ofString (quote text) = 34 :: (ofChars (text.toList.flatMap escapeChar) ++ [34]) := by
  have sign : String.utf8EncodeChar '"' = [34] := by decide
  rw [quote, Bytes.ofString_ofList, quoteChars, List.cons_append, ofChars_cons, ofChars_append,
    ofChars_cons, sign]
  rfl

theorem stringAfterQuote_quote (text : String) (rest : Bytes) :
    stringAfterQuote ((Bytes.ofString (quote text) ++ rest).tail) = .ok (text, rest) := by
  have read := stringAfterQuote_chars text.toList rest
  rw [ofString_quote]
  simpa using read

theorem quote_bytes (text : String) (rest : Bytes) :
    ∃ contents, Bytes.ofString (quote text) ++ rest = 34 :: contents ∧
      stringAfterQuote contents = .ok (text, rest) := by
  have read := stringAfterQuote_quote text rest
  rw [ofString_quote] at read ⊢
  exact ⟨_, rfl, read⟩

theorem text_quote (value : String) (rest : Bytes) :
    text (Bytes.ofString (quote value) ++ rest) = .ok (value, rest) := by
  have read := stringAfterQuote_quote value rest
  rw [ofString_quote] at read ⊢
  have visible : isBlank 34 = false := by decide
  simpa [text, skipBlank, visible] using read

end Enrolment.Json
