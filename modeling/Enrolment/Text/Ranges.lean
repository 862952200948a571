import Enrolment.Text.Bytes

set_option autoImplicit false

namespace Enrolment

structure CodeRanges where
  bounds : Array (Nat × Nat)

namespace CodeRanges

-- What has been read of a written set: the ranges, the lower bound of an open range, and the number
-- under way.
structure Draft where
  ranges : Array (Nat × Nat) := #[]
  lower : Option Nat := none
  number : Option Nat := none

def Draft.finish (draft : Draft) : Draft :=
  match draft.number with
  | none => draft
  | some number => ⟨draft.ranges.push (draft.lower.getD number, number), none, none⟩

def Draft.add (draft : Draft) (char : Char) : Draft :=
  match Hex.digit? char with
  | some digit => { draft with number := some (draft.number.getD 0 * 16 + digit) }
  | none =>
    if char = '-' then { draft with lower := draft.number, number := none } else draft.finish

def readLine (line : String) : List (Nat × Nat) :=
  (line.foldl Draft.add {}).finish.ranges.toList

def parse (lines : List String) : CodeRanges := ⟨(lines.flatMap readLine).toArray⟩

def search (bounds : Array (Nat × Nat)) (code : Nat) : Nat → Nat → Nat → Bool
  | 0, _, _ => false
  | fuel + 1, low, high =>
    if low < high then
      let middle := (low + high) / 2
      let (first, last) := bounds.getD middle (0, 0)
      if code < first then search bounds code fuel low middle
      else if last < code then search bounds code fuel (middle + 1) high
      else true
    else false

def contains (set : CodeRanges) (code : Nat) : Bool :=
  search set.bounds code (set.bounds.size + 1) 0 set.bounds.size

end CodeRanges

end Enrolment
