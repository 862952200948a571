import Enrolment.Proofs.Text.Base64
import Enrolment.Proofs.Text.Lines
import Enrolment.Token.Key

set_option autoImplicit false

namespace Enrolment.SigningKey

def IsBlank (chars : List Char) : Prop := ∀ char ∈ chars, isWhiteSpace char = true

theorem isBlank_of_all {chars : List Char} (all : chars.all isWhiteSpace = true) : IsBlank chars :=
  List.all_eq_true.mp all

def boundarySign : List Char := ['-', '-', '-', '-', '-']

-- A line and the piece of the body on it: some characters between blanks, or none if the line is
-- blank or a boundary.
inductive Carries : List Char → List Char → Prop
  | piece {lead piece tail : List Char} (leading : IsBlank lead) (trailing : IsBlank tail)
    (filled : piece ≠ []) : Carries (lead ++ piece ++ tail) piece
  | blank {line : List Char} (blank : IsBlank line) : Carries line []
  | boundary {lead : List Char} (leading : IsBlank lead) (rest : List Char) :
    Carries (lead ++ boundarySign ++ rest) []

def lineEnds : List (List Char) := [['\n'], ['\r', '\n']]

-- A text whose lines carry a body, piece by piece. The last line need not be ended.
inductive Armours : List Char → List Char → Prop
  | last {line piece : List Char} (single : '\n' ∉ line) (carries : Carries line piece) :
    Armours line piece
  | line {line piece ending text body : List Char} (single : '\n' ∉ line)
    (carries : Carries line piece) (ends : ending ∈ lineEnds) (more : Armours text body) :
    Armours (line ++ ending ++ text) (piece ++ body)

def pieceOf (line : List Char) : List Char :=
  let trimmed := trimBlanks line
  if trimmed.take 5 = boundarySign then [] else trimmed

theorem pieceOf_return (line : List Char) : pieceOf (line ++ ['\r']) = pieceOf line := by
  have trimmed : trimBlanks (line ++ ['\r']) = trimBlanks line :=
    trimChars_append_dropped line (by decide)
  rw [pieceOf, trimmed]
  rfl

theorem pieceOf_stripped (line : List Char) :
    pieceOf (if line.getLast? = some '\r' then line.dropLast else line) = pieceOf line := by
  split
  next ends =>
    obtain ⟨init, rfl⟩ := List.getLast?_eq_some_iff.mp ends
    rw [List.dropLast_concat, pieceOf_return]
  next => rfl

theorem armourBody_eq (text : String) :
    armourBody text = (splitAt '\n' text.toList).flatMap pieceOf := by
  have nothing : pieceOf [] = [] := rfl
  have body : armourBody text = (lines text.toList).flatMap pieceOf := by
    rw [armourBody, List.flatMap_map]
    rfl
  simp only [body, lines, List.flatMap_map, pieceOf_stripped]
  split
  next ends =>
    obtain ⟨init, parts⟩ := List.getLast?_eq_some_iff.mp ends
    rw [parts, List.dropLast_concat, List.flatMap_append, List.flatMap_singleton, nothing,
      List.append_nil]
  next => rfl

def IsBody (body : List Char) : Prop := ∀ char ∈ body, isWhiteSpace char = false ∧ char ≠ '-'

theorem pieceOf_of_carries {line piece : List Char} (carries : Carries line piece)
    (plain : IsBody piece) : pieceOf line = piece := by
  cases carries with
  | @piece lead piece tail leading trailing filled =>
    obtain ⟨first, more, rfl⟩ := List.exists_cons_of_ne_nil filled
    have ends := List.getLast?_eq_some_getLast filled
    have trimmed : trimBlanks (lead ++ (first :: more) ++ tail) = first :: more :=
      trimChars_framed leading trailing rfl ends (plain first List.mem_cons_self).1
        (plain _ (List.getLast_mem filled)).1
    have other : (first :: more).take 5 ≠ boundarySign := by
      intro same
      exact (plain first List.mem_cons_self).2 (List.cons.inj same).1
    rw [pieceOf, trimmed, if_neg other]
  | blank blank =>
    have trimmed : trimBlanks line = [] := trimChars_all blank
    rw [pieceOf, trimmed]
    rfl
  | @boundary lead leading rest =>
    obtain ⟨more, trimmed⟩ : ∃ more, trimBlanks (lead ++ boundarySign ++ rest) =
        boundarySign ++ more :=
      exists_trimChars_eq leading rfl rfl (by decide) (by decide) rest
    rw [pieceOf, trimmed]
    rfl

theorem flatMap_pieceOf {text body : List Char} (armours : Armours text body)
    (plain : IsBody body) : (splitAt '\n' text).flatMap pieceOf = body := by
  induction armours with
  | last single carries =>
    rw [splitAt_part _ _ single, List.flatMap_singleton, pieceOf_of_carries carries plain]
  | @line line piece ending text body single carries ends more ih =>
    have first := pieceOf_of_carries carries fun char member =>
      plain char (List.mem_append_left _ member)
    have later := ih fun char member => plain char (List.mem_append_right _ member)
    simp only [lineEnds, List.mem_cons, List.not_mem_nil, or_false] at ends
    rcases ends with rfl | rfl
    · rw [List.append_assoc, List.singleton_append, splitAt_append _ _ _ single,
        List.flatMap_cons, first, later]
    -- A carriage return in front of the line feed goes with the blanks around the piece.
    · have returned : '\n' ∉ line ++ ['\r'] := by simpa using single
      have shape : line ++ ['\r', '\n'] ++ text = (line ++ ['\r']) ++ '\n' :: text := by simp
      rw [shape, splitAt_append _ _ _ returned, List.flatMap_cons, pieceOf_return, first, later]

theorem isBody_encodeChars (document : Bytes) :
    IsBody (Base64.encodeChars Base64.standard document) := by
  have symbols : ∀ value < 64, isWhiteSpace (Base64.standard.symbol value) = false ∧
      Base64.standard.symbol value ≠ '-' := by decide
  intro char member
  rcases Base64.mem_encodeChars member with ⟨value, small, rfl⟩ | rfl
  · exact symbols value small
  · decide

theorem armour_immaterial (algorithm : Algorithm) (text : String) (document : Bytes)
    (armours : Armours text.toList (Base64.encodeChars Base64.standard document)) :
    ofMaterial algorithm (.armoured text) = ofMaterial algorithm (.document document) := by
  have body := flatMap_pieceOf armours (isBody_encodeChars document)
  have read := Base64.read?_encodeChars Base64.standard (.inl rfl) document
  simp only [ofMaterial, ofArmoured, armourBody_eq, body, Bytes.ofString_ofList, Base64.decode, read]

-- The document of the key whose secret is one, so that its public point is the base point.
def firstKey : Bytes :=
  [0x30, 0x81, 0x87, 0x02, 0x01, 0x00, 0x30, 0x13] ++ KeyDocument.curveKeyOid ++
    KeyDocument.p256.curveOid ++ [0x04, 0x6d, 0x30, 0x6b, 0x02, 0x01, 0x01, 0x04, 0x20] ++
    Bytes.ofNat 32 1 ++ [0xa1, 0x44, 0x03, 0x42, 0x00, 0x04] ++
    Bytes.ofNat 32 Curve.p256.baseX ++ Bytes.ofNat 32 Curve.p256.baseY

def ideographicSpace : Char := Char.ofNat 0x3000

def loosened (body : List Char) : List Char :=
  [' '] ++ boundarySign ++ ['B'] ++ ['\r', '\n'] ++
    (['\t'] ++ body.take 5 ++ ['\r', ' '] ++ ['\n'] ++
      ([ideographicSpace] ++ ['\r', '\n'] ++ ([] ++ body.drop 5 ++ [' '])))

theorem armours_loosened {body : List Char} (long : 5 < body.length) (single : '\n' ∉ body) :
    Armours (loosened body) body := by
  have first : body.take 5 ≠ [] := by
    rw [ne_eq, List.take_eq_nil_iff]
    rintro (short | rfl)
    · cases short
    · cases long
  have rest : body.drop 5 ≠ [] := by
    rw [ne_eq, List.drop_eq_nil_iff]
    omega
  have whole : body = [] ++ (body.take 5 ++ ([] ++ body.drop 5)) := by simp
  conv => rhs; rw [whole]
  apply Armours.line (by decide) (.boundary (isBlank_of_all (by decide)) ['B']) (by decide)
  apply Armours.line ?_ (.piece (isBlank_of_all (by decide)) (isBlank_of_all (by decide)) first)
    (by decide)
  · apply Armours.line (by decide) (.blank (isBlank_of_all (by decide))) (by decide)
    refine Armours.last ?_
      (.piece (isBlank_of_all (by decide)) (isBlank_of_all (by decide)) rest)
    simpa using fun member => single (List.mem_of_mem_drop member)
  · simpa using fun member => single (List.mem_of_mem_take member)

theorem read_firstKey :
    ∃ pair, KeyDocument.read KeyDocument.p256 firstKey = .ok pair ∧ pair.secret = 1 := by
  have read : (KeyDocument.read KeyDocument.p256 firstKey).toOption.map Ecdsa.KeyPair.secret =
      some 1 := by decide +kernel
  obtain ⟨pair, found, secret⟩ := Option.map_eq_some_iff.mp read
  cases outcome : KeyDocument.read KeyDocument.p256 firstKey with
  | error fault =>
    rw [outcome] at found
    cases found
  | ok other =>
    rw [outcome] at found
    cases found
    exact ⟨pair, rfl, secret⟩

theorem armour_immaterial_firstKey :
    ∃ text pair, text.toList = loosened (Base64.encodeChars Base64.standard firstKey) ∧
      ofMaterial .es256 (.armoured text) = .ok (.elliptic Ecdsa.p256Sha256 pair) ∧
        pair.secret = 1 := by
  obtain ⟨pair, read, secret⟩ := read_firstKey
  have shape := String.toList_ofList (l := loosened (Base64.encodeChars Base64.standard firstKey))
  have same := armour_immaterial .es256 _ firstKey
    (shape ▸ armours_loosened (by decide +kernel) (by decide +kernel))
  refine ⟨_, pair, shape, ?_, secret⟩
  rw [same, ofMaterial, ofDocument]
  simp only [expected?, read]
  rfl

end Enrolment.SigningKey
