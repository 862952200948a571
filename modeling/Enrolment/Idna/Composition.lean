import Enrolment.Idna.CompositionTable

set_option autoImplicit false

namespace Enrolment.Idna

def syllableStart : Nat := 0xAC00
def leadStart : Nat := 0x1100
def vowelStart : Nat := 0x1161
def trailStart : Nat := 0x11A7
def vowelCount : Nat := 21
def trailCount : Nat := 28

def isSyllable (code : Nat) : Bool :=
  syllableStart ≤ code && code < syllableStart + 19 * vowelCount * trailCount

def decomposeSyllable (code : Nat) : List Nat :=
  let index := code - syllableStart
  let lead := leadStart + index / (vowelCount * trailCount)
  let vowel := vowelStart + index % (vowelCount * trailCount) / trailCount
  let trail := index % trailCount
  if trail = 0 then [lead, vowel] else [lead, vowel, trailStart + trail]

def composeSyllable? (first second : Nat) : Option Nat :=
  if leadStart ≤ first && first < leadStart + 19 && vowelStart ≤ second &&
      second < vowelStart + vowelCount then
    some (syllableStart + ((first - leadStart) * vowelCount + (second - vowelStart)) * trailCount)
  else if isSyllable first && (first - syllableStart) % trailCount = 0 && trailStart < second &&
      second < trailStart + trailCount then
    some (first + (second - trailStart))
  else none

-- The full decomposition; steps nest only a few levels deep.
def decompose : Nat → Nat → List Nat
  | 0, code => [code]
  | depth + 1, code =>
    if isSyllable code then decomposeSyllable code
    else
      match decompositions.get.lookup code with
      | some parts => parts.flatMap (decompose depth)
      | none => [code]

def combiningClass (code : Nat) : Nat :=
  if code < 0x300 then 0
  else ((combiningClasses.get.lookup code).bind List.head?).getD 0

def insertMark (mark : Nat × Nat) : List (Nat × Nat) → List (Nat × Nat)
  | [] => [mark]
  | last :: before =>
    if mark.2 < last.2 then last :: insertMark mark before else mark :: last :: before

def orderMarks (codes : List Nat) : List (Nat × Nat) :=
  (codes.foldl (fun ordered code =>
    let kind := combiningClass code
    if kind = 0 then (code, 0) :: ordered else insertMark (code, kind) ordered) []).reverse

def composePair? (first second : Nat) : Option Nat :=
  (composeSyllable? first second).orElse fun _ =>
    (decompositions.get.rows.find? fun row =>
      row.target = [first, second] && !uncomposed.get.contains row.first).map CodeRow.first

-- Composition under way: the text so far in reverse, the last starter with what has followed it in
-- reverse, and the class of the last mark kept behind the starter.
structure Composer where
  done : List Nat := []
  starter : Option Nat := none
  marks : List Nat := []
  lastClass : Nat := 0

def Composer.flush (composer : Composer) : List Nat :=
  composer.marks ++ composer.starter.toList ++ composer.done

-- A character joins the last starter unless something of its class or above stands between.
def Composer.add (composer : Composer) (item : Nat × Nat) : Composer :=
  let (code, kind) := item
  let blocked := composer.lastClass ≠ 0 && composer.lastClass ≥ kind
  let joined := match composer.starter with
    | some starter =>
      if composer.marks.isEmpty || (!blocked && kind ≠ 0) then composePair? starter code else none
    | none => none
  match joined with
  | some whole => { composer with starter := some whole }
  | none =>
    if kind = 0 then { done := composer.flush, starter := some code }
    else { composer with marks := code :: composer.marks, lastClass := kind }

def compose (text : List Char) : List Char :=
  let codes := text.flatMap fun char => decompose 8 char.toNat
  (((orderMarks codes).foldl Composer.add {}).flush.reverse).map Char.ofNat

end Enrolment.Idna
