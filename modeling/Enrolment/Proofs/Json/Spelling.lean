import Enrolment.Proofs.Json.Text

set_option autoImplicit false

namespace Enrolment.Json

open Bytes (ofChars)

def IsHexDigit (byte : UInt8) (value : Nat) : Prop :=
  Hex.digit? (Char.ofNat byte.toNat) = some value

inductive SpellsUnit : Bytes → Nat → Prop
  | digits {a b c d : UInt8} {first second third fourth : Nat} (ha : IsHexDigit a first)
      (hb : IsHexDigit b second) (hc : IsHexDigit c third) (hd : IsHexDigit d fourth) :
      SpellsUnit [a, b, c, d] (((first * 16 + second) * 16 + third) * 16 + fourth)

theorem hexUnit_digits {digits : Bytes} {unit : Nat} (spells : SpellsUnit digits unit)
    (rest : Bytes) : hexUnit (digits ++ rest) = .ok (unit, rest) := by
  obtain ⟨ha, hb, hc, hd⟩ := spells
  unfold IsHexDigit at ha hb hc hd
  simp [hexUnit, ha, hb, hc, hd]

def shortEscapes : List (Char × UInt8) :=
  [('"', 34), ('\\', 92), ('/', 47), (Char.ofNat 8, 98), (Char.ofNat 12, 102), ('\n', 110),
    ('\r', 114), ('\t', 116)]

theorem shortEscape?_eq_some : ∀ pair ∈ shortEscapes,
    pair.2 ≠ 117 ∧ (shortEscape? pair.2).map (fun byte => [byte]) =
      some (String.utf8EncodeChar pair.1) := by
  decide

inductive SpellsChar : Char → Bytes → Prop
  | plain {char : Char} (visible : 32 ≤ char.toNat) (noQuote : char ≠ '"')
      (noBackslash : char ≠ '\\') : SpellsChar char (String.utf8EncodeChar char)
  | short {char : Char} {letter : UInt8} (listed : (char, letter) ∈ shortEscapes) :
      SpellsChar char [92, letter]
  | unit {char : Char} {digits : Bytes} (spells : SpellsUnit digits char.toNat) :
      SpellsChar char (92 :: 117 :: digits)
  -- A character beyond U+FFFF takes two escapes, one for each surrogate.
  | pair {char : Char} {highDigits lowDigits : Bytes} {high low : Nat}
      (spellsHigh : SpellsUnit highDigits high) (spellsLow : SpellsUnit lowDigits low)
      (isHigh : isHighSurrogate high = true) (isLow : isLowSurrogate low = true)
      (code : char.toNat = 0x10000 + (high - 0xD800) * 0x400 + (low - 0xDC00)) :
      SpellsChar char (92 :: 117 :: (highDigits ++ 92 :: 117 :: lowDigits))

theorem not_high_of_low {unit : Nat} (isLow : isLowSurrogate unit = true) :
    isHighSurrogate unit = false := by
  simp only [isLowSurrogate, isHighSurrogate, Bool.and_eq_true, decide_eq_true_eq] at isLow ⊢
  simp
  omega

theorem not_low_of_high {unit : Nat} (isHigh : isHighSurrogate unit = true) :
    isLowSurrogate unit = false := by
  cases isLow : isLowSurrogate unit with
  | false => rfl
  | true => rw [not_high_of_low isLow] at isHigh; cases isHigh

theorem char_not_surrogate (char : Char) :
    isHighSurrogate char.toNat = false ∧ isLowSurrogate char.toNat = false := by
  have valid : char.toNat < 0xD800 ∨ 0xDFFF < char.toNat ∧ char.toNat < 0x110000 := char.valid
  simp only [isHighSurrogate, isLowSurrogate, Bool.and_eq_false_iff, decide_eq_false_iff_not]
  omega

theorem escape_unit {digits : Bytes} {char : Char} (spells : SpellsUnit digits char.toNat)
    (rest : Bytes) :
    escape (117 :: digits ++ rest) = .ok (String.utf8EncodeChar char, rest) := by
  obtain ⟨noHigh, noLow⟩ := char_not_surrogate char
  simp only [escape, unicodeEscape, List.cons_append, hexUnit_digits spells, bind, Except.bind,
    noHigh, noLow, charBytes, Char.ofNat_toNat]
  rfl

theorem escape_pair {highDigits lowDigits : Bytes} {high low : Nat}
    (spellsHigh : SpellsUnit highDigits high) (spellsLow : SpellsUnit lowDigits low)
    (isHigh : isHighSurrogate high = true) (isLow : isLowSurrogate low = true) (rest : Bytes) :
    escape (117 :: (highDigits ++ 92 :: 117 :: lowDigits) ++ rest) =
      .ok (charBytes (0x10000 + (high - 0xD800) * 0x400 + (low - 0xDC00)), rest) := by
  simp only [escape, unicodeEscape, List.cons_append, List.append_assoc,
    hexUnit_digits spellsHigh, hexUnit_digits spellsLow, bind, Except.bind, isHigh, isLow,
    not_low_of_high isHigh]
  rfl

theorem SpellsChar.isSpelling {char : Char} {bytes : Bytes} (spells : SpellsChar char bytes) :
    IsSpelling char bytes := by
  cases spells with
  | plain visible noQuote noBackslash =>
    exact .inr ⟨rfl, isPlain_utf8EncodeChar visible noQuote noBackslash⟩
  | @short letter listed =>
    obtain ⟨noUnit, named⟩ := shortEscape?_eq_some _ listed
    obtain ⟨byte, isShort, bytes⟩ := Option.map_eq_some_iff.mp named
    refine .inl ⟨[letter], rfl, fun rest => ?_⟩
    rw [List.singleton_append, escape.eq_3 _ _ noUnit, isShort, ← bytes]
  | unit spells => exact .inl ⟨_, rfl, escape_unit spells⟩
  | pair spellsHigh spellsLow isHigh isLow code =>
    refine .inl ⟨_, rfl, fun rest => ?_⟩
    rw [escape_pair spellsHigh spellsLow isHigh isLow, ← code, charBytes, Char.ofNat_toNat]

def SpellsText (text : String) (contents : Bytes) : Prop :=
  ∃ spellings, List.Forall₂ SpellsChar text.toList spellings ∧ contents = spellings.flatten

theorem stringAfterQuote_spells {text : String} {contents : Bytes}
    (spells : SpellsText text contents) (rest : Bytes) :
    stringAfterQuote (contents ++ 34 :: rest) = .ok (text, rest) := by
  obtain ⟨spellings, spelt, rfl⟩ := spells
  have read := stringAfterQuote_spelled (spelt.imp fun _ _ => SpellsChar.isSpelling) rest
  rwa [String.ofList_toList] at read

theorem spellsText_plain {text : String}
    (plain : ∀ char ∈ text.toList, 32 ≤ char.toNat ∧ char ≠ '"' ∧ char ≠ '\\') :
    SpellsText text (Bytes.ofString text) := by
  refine ⟨text.toList.map String.utf8EncodeChar, ?_, ?_⟩
  · refine List.forall₂_map_right_iff.mpr (List.forall₂_same.mpr fun char member => ?_)
    obtain ⟨visible, noQuote, noBackslash⟩ := plain char member
    exact .plain visible noQuote noBackslash
  · rw [Bytes.ofString_eq, ofChars, List.flatMap_def]

theorem SpellsText.unique {left right : String} {contents : Bytes}
    (spellsLeft : SpellsText left contents) (spellsRight : SpellsText right contents) :
    left = right := by
  have read := (stringAfterQuote_spells spellsLeft []).symm.trans
    (stringAfterQuote_spells spellsRight [])
  exact congrArg Prod.fst (Except.ok.inj read)

-- A piece of the contents of a string. Half a surrogate pair is one, though alone it stands for no
-- character.
inductive IsPiece : Bytes → Prop
  | char {char : Char} {bytes : Bytes} (spells : SpellsChar char bytes) : IsPiece bytes
  | half {digits : Bytes} {unit : Nat} (spells : SpellsUnit digits unit)
      (surrogate : isHighSurrogate unit = true ∨ isLowSurrogate unit = true) :
      IsPiece (92 :: 117 :: digits)

def IsContents (contents : Bytes) : Prop :=
  ∃ pieces : List Bytes, (∀ piece ∈ pieces, IsPiece piece) ∧ contents = pieces.flatten

theorem SpellsText.isContents {text : String} {contents : Bytes}
    (spells : SpellsText text contents) : IsContents contents := by
  obtain ⟨spellings, spelt, rfl⟩ := spells
  refine ⟨spellings, ?_, rfl⟩
  generalize text.toList = chars at spelt
  induction spelt with
  | nil => simp
  | cons spells more ih => exact List.forall_mem_cons.mpr ⟨.char spells, ih⟩

theorem escape_low {digits : Bytes} {unit : Nat} (spells : SpellsUnit digits unit)
    (isLow : isLowSurrogate unit = true) (rest : Bytes) :
    escape (117 :: digits ++ rest) = .error .malformed := by
  simp only [escape, unicodeEscape, List.cons_append, hexUnit_digits spells, bind, Except.bind,
    isLow]
  rfl

inductive EndsPair : Bytes → Prop
  | noEscape {byte : UInt8} (other : byte ≠ 92) (more : Bytes) : EndsPair (byte :: more)
  | noUnit {letter : UInt8} (other : letter ≠ 117) (more : Bytes) : EndsPair (92 :: letter :: more)
  | noLow {digits : Bytes} {unit : Nat} (spells : SpellsUnit digits unit)
      (other : isLowSurrogate unit = false) (rest : Bytes) :
      EndsPair (92 :: 117 :: (digits ++ rest))

theorem escape_high {digits : Bytes} {unit : Nat} (spells : SpellsUnit digits unit)
    (isHigh : isHighSurrogate unit = true) {rest : Bytes} (ends : EndsPair rest) :
    escape (117 :: digits ++ rest) = .error .malformed := by
  simp only [escape, unicodeEscape, List.cons_append, hexUnit_digits spells, bind, Except.bind,
    not_low_of_high isHigh, isHigh]
  cases ends with
  | noEscape other => simp [other]; rfl
  | noUnit other => simp [other]; rfl
  | noLow spells other => simp [hexUnit_digits spells, other]; rfl

def IsRefused (contents : Bytes) : Prop :=
  ∀ fuel read rest, (contents ++ 34 :: rest).length < fuel →
    ∃ fault, stringBody fuel read (contents ++ 34 :: rest) = .error fault

theorem IsRefused.after {char : Char} {bytes contents : Bytes} (spelling : IsSpelling char bytes)
    (refused : IsRefused contents) : IsRefused (bytes ++ contents) := by
  intro fuel read rest enough
  rw [List.append_assoc] at enough ⊢
  obtain ⟨left, remaining, step⟩ := stringBody_char spelling fuel read _ enough
  rw [step]
  exact refused left _ rest remaining

theorem isRefused_of_escape {letters contents : Bytes}
    (broken : ∀ rest, escape (letters ++ (contents ++ 34 :: rest)) = .error .malformed) :
    IsRefused (92 :: letters ++ contents) := by
  intro fuel read rest enough
  obtain ⟨left, rfl⟩ : ∃ left, fuel = left + 1 := ⟨fuel - 1, by simp at enough; omega⟩
  refine ⟨.malformed, ?_⟩
  simp [stringBody, broken rest]

theorem stringAfterQuote_refused {contents : Bytes} (refused : IsRefused contents) (rest : Bytes) :
    ∃ fault, stringAfterQuote (contents ++ 34 :: rest) = .error fault := by
  obtain ⟨fault, body⟩ := refused _ [] rest (Nat.lt_succ_self _)
  refine ⟨fault, ?_⟩
  rw [stringAfterQuote, body]
  rfl

theorem isLow_or_endsPair {piece : Bytes} (isPiece : IsPiece piece) :
    (∃ digits unit, piece = 92 :: 117 :: digits ∧ SpellsUnit digits unit ∧
      isLowSurrogate unit = true) ∨ ∀ rest, EndsPair (piece ++ rest) := by
  cases isPiece with
  | @char char _ spells =>
    refine .inr fun rest => ?_
    cases spells with
    | plain visible noQuote noBackslash =>
      have plain := isPlain_utf8EncodeChar visible noQuote noBackslash
      obtain ⟨byte, more, bytes⟩ := List.exists_cons_of_length_pos (l := String.utf8EncodeChar char)
        (by simpa using char.utf8Size_pos)
      rw [bytes] at plain ⊢
      exact .noEscape (plain byte List.mem_cons_self).2.1 _
    | short listed => exact .noUnit (shortEscape?_eq_some _ listed).1 rest
    | unit spells => exact .noLow spells (char_not_surrogate _).2 rest
    | pair spellsHigh _ isHigh =>
      rw [List.cons_append, List.cons_append, List.append_assoc]
      exact .noLow spellsHigh (not_low_of_high isHigh) _
  | half spells surrogate =>
    rcases surrogate with isHigh | isLow
    · exact .inr fun rest => .noLow spells (not_low_of_high isHigh) rest
    · exact .inl ⟨_, _, rfl, spells, isLow⟩

theorem spellsChar_surrogates {highDigits lowDigits : Bytes} {high low : Nat}
    (spellsHigh : SpellsUnit highDigits high) (spellsLow : SpellsUnit lowDigits low)
    (isHigh : isHighSurrogate high = true) (isLow : isLowSurrogate low = true) :
    ∃ char, SpellsChar char (92 :: 117 :: (highDigits ++ 92 :: 117 :: lowDigits)) := by
  have highBounds := isHigh
  have lowBounds := isLow
  simp only [isHighSurrogate, Bool.and_eq_true, decide_eq_true_eq] at highBounds
  simp only [isLowSurrogate, Bool.and_eq_true, decide_eq_true_eq] at lowBounds
  have valid : (0x10000 + (high - 0xD800) * 0x400 + (low - 0xDC00)).isValidChar :=
    .inr (by omega)
  refine ⟨Char.ofNatAux _ valid, .pair spellsHigh spellsLow isHigh isLow ?_⟩
  rfl

def IsDecided (contents : Bytes) : Prop :=
  (∃ text, SpellsText text contents) ∨ IsRefused contents

theorem IsDecided.after {char : Char} {bytes contents : Bytes} (spells : SpellsChar char bytes)
    (decided : IsDecided contents) : IsDecided (bytes ++ contents) := by
  rcases decided with ⟨text, spellings, spelt, rfl⟩ | refused
  · refine .inl ⟨String.ofList (char :: text.toList), bytes :: spellings, ?_, by simp⟩
    rw [String.toList_ofList]
    exact .cons spells spelt
  · exact .inr (refused.after spells.isSpelling)

theorem isRefused_low {digits : Bytes} {unit : Nat} (spells : SpellsUnit digits unit)
    (isLow : isLowSurrogate unit = true) (contents : Bytes) :
    IsRefused (92 :: 117 :: digits ++ contents) :=
  isRefused_of_escape fun _ => escape_low spells isLow _

theorem isRefused_high {digits : Bytes} {unit : Nat} (spells : SpellsUnit digits unit)
    (isHigh : isHighSurrogate unit = true) {contents : Bytes}
    (ends : ∀ rest, EndsPair (contents ++ 34 :: rest)) :
    IsRefused (92 :: 117 :: digits ++ contents) :=
  isRefused_of_escape fun rest => escape_high spells isHigh (ends rest)

theorem isDecided_flatten : ∀ pieces : List Bytes, (∀ piece ∈ pieces, IsPiece piece) →
    IsDecided pieces.flatten
  | [], _ => .inl ⟨"", [], .nil, rfl⟩
  | piece :: pieces, isPiece => by
    obtain ⟨isFirst, isLater⟩ := List.forall_mem_cons.mp isPiece
    rw [List.flatten_cons]
    cases isFirst with
    | char spells => exact (isDecided_flatten pieces isLater).after spells
    | half spells surrogate =>
      rcases surrogate with isHigh | isLow
      · -- A high half is judged together with the piece behind it, which may complete the pair.
        cases pieces with
        | nil => exact .inr (isRefused_high spells isHigh fun rest => .noEscape (by decide) rest)
        | cons next more =>
          obtain ⟨isNext, isMore⟩ := List.forall_mem_cons.mp isLater
          rcases isLow_or_endsPair isNext with ⟨lowDigits, low, rfl, spellsLow, isLow⟩ | ends
          · obtain ⟨char, spellsPair⟩ := spellsChar_surrogates spells spellsLow isHigh isLow
            have decided := (isDecided_flatten more isMore).after spellsPair
            simpa using decided
          · refine .inr (isRefused_high spells isHigh fun rest => ?_)
            rw [List.flatten_cons, List.append_assoc]
            exact ends _
      · exact .inr (isRefused_low spells isLow _)

theorem spells_or_refused {contents : Bytes} (isContents : IsContents contents) :
    (∃ text, SpellsText text contents) ∨
      ∀ rest, ∃ fault, stringAfterQuote (contents ++ 34 :: rest) = .error fault := by
  obtain ⟨pieces, isPiece, rfl⟩ := isContents
  exact (isDecided_flatten pieces isPiece).imp_right stringAfterQuote_refused

theorem skipString_plain (bytes : Bytes) (plain : ∀ byte ∈ bytes, IsPlain byte) (fuel : Nat)
    (rest : Bytes) : skipString (fuel + bytes.length) (bytes ++ rest) = skipString fuel rest := by
  induction bytes with
  | nil => rfl
  | cons byte more ih =>
    obtain ⟨noQuote, noBackslash, noControl⟩ := plain byte (by simp)
    have later := ih fun other member => plain other (List.mem_cons_of_mem _ member)
    simp only [List.length_cons, ← Nat.add_assoc, List.cons_append, skipString, noQuote,
      noBackslash, noControl, if_false, later]

theorem skipString_unit {digits : Bytes} {unit : Nat} (spells : SpellsUnit digits unit) (fuel : Nat)
    (rest : Bytes) :
    skipString (fuel + 1) (92 :: 117 :: (digits ++ rest)) = skipString fuel rest := by
  simp [skipString, hexUnit_digits spells]

theorem skipString_piece {piece : Bytes} (isPiece : IsPiece piece) :
    ∃ cost ≤ piece.length, ∀ fuel rest,
      skipString (fuel + cost) (piece ++ rest) = skipString fuel rest := by
  cases isPiece with
  | half spells => exact ⟨1, by simp, fun fuel rest => skipString_unit spells fuel rest⟩
  | char spells =>
    cases spells with
    | plain visible noQuote noBackslash =>
      have plain := isPlain_utf8EncodeChar visible noQuote noBackslash
      exact ⟨_, Nat.le_refl _, skipString_plain _ plain⟩
    | @short letter listed =>
      obtain ⟨noUnit, named⟩ := shortEscape?_eq_some _ listed
      obtain ⟨byte, isShort, -⟩ := Option.map_eq_some_iff.mp named
      refine ⟨1, by simp, fun fuel rest => ?_⟩
      simp [skipString, isShort]
    | unit spells => exact ⟨1, by simp, fun fuel rest => skipString_unit spells fuel rest⟩
    | pair spellsHigh spellsLow =>
      refine ⟨2, by simp, fun fuel rest => ?_⟩
      rw [List.cons_append, List.cons_append, List.append_assoc,
        skipString_unit spellsHigh (fuel + 1)]
      exact skipString_unit spellsLow fuel rest

theorem skipString_pieces (pieces : List Bytes) (isPiece : ∀ piece ∈ pieces, IsPiece piece) :
    ∃ cost ≤ pieces.flatten.length, ∀ fuel rest,
      skipString (fuel + cost) (pieces.flatten ++ rest) = skipString fuel rest := by
  induction pieces with
  | nil => exact ⟨0, Nat.le_refl 0, fun _ _ => rfl⟩
  | cons piece more ih =>
    obtain ⟨isFirst, isLater⟩ := List.forall_mem_cons.mp isPiece
    obtain ⟨first, firstBound, skipFirst⟩ := skipString_piece isFirst
    obtain ⟨later, laterBound, skipLater⟩ := ih isLater
    refine ⟨later + first, by simp only [List.flatten_cons, List.length_append]; omega, ?_⟩
    intro fuel rest
    rw [List.flatten_cons, List.append_assoc, ← Nat.add_assoc, skipFirst, skipLater]

theorem skipString_contents {contents : Bytes} (isContents : IsContents contents) (rest : Bytes) :
    skipString ((contents ++ 34 :: rest).length + 1) (contents ++ 34 :: rest) = .ok rest := by
  obtain ⟨pieces, isPiece, rfl⟩ := isContents
  obtain ⟨cost, bound, skip⟩ := skipString_pieces pieces isPiece
  obtain ⟨fuel, enough⟩ : ∃ fuel, (pieces.flatten ++ 34 :: rest).length + 1 = fuel + 1 + cost :=
    ⟨(pieces.flatten ++ 34 :: rest).length - cost, by rw [List.length_append]; omega⟩
  rw [enough, skip]
  rfl

end Enrolment.Json
