import Enrolment.Text.Ranges

set_option autoImplicit false

namespace Enrolment

inductive CodeStep
  -- Each code point has the value that lies as far behind the first value as it does itself.
  | every
  -- The same, for every second code point only.
  | second
  -- All have the same value.
  | constant
  deriving DecidableEq

structure CodeRow where
  first : Nat
  last : Nat
  step : CodeStep
  target : List Nat

structure CodeTable where
  rows : Array CodeRow

namespace CodeTable

structure Draft where
  rows : Array CodeRow := #[]
  bounds : List Nat := []
  step : CodeStep := .every
  target : List Nat := []
  inTarget : Bool := false
  number : Option Nat := none

def Draft.take (draft : Draft) : Draft :=
  match draft.number with
  | none => draft
  | some number =>
    if draft.inTarget then { draft with target := draft.target ++ [number], number := none }
    else { draft with bounds := draft.bounds ++ [number], number := none }

def Draft.finish (draft : Draft) : Draft :=
  let draft := draft.take
  match draft.bounds with
  | [] => draft
  | first :: more =>
    { rows := draft.rows.push ⟨first, more.headD first, draft.step, draft.target⟩ }

def Draft.add (draft : Draft) (char : Char) : Draft :=
  match Hex.digit? char with
  | some digit => { draft with number := some (draft.number.getD 0 * 16 + digit) }
  | none =>
    match char with
    | '-' | ',' => draft.take
    | '/' => { draft.take with step := .second }
    | '=' => { draft.take with step := .constant }
    | '>' => { draft.take with inTarget := true }
    | _ => draft.finish

-- Reads rows such as `41-5A>61`, `100-12E/>101`, `300-314=>E6` and `FB00>66,66`.
def readLine (line : String) : List CodeRow := (line.foldl Draft.add {}).finish.rows.toList

def parse (lines : List String) : CodeTable := ⟨(lines.flatMap readLine).toArray⟩

def search (rows : Array CodeRow) (code : Nat) : Nat → Nat → Nat → Option CodeRow
  | 0, _, _ => none
  | fuel + 1, low, high =>
    if low < high then
      let middle := (low + high) / 2
      match rows[middle]? with
      | none => none
      | some row =>
        if code < row.first then search rows code fuel low middle
        else if row.last < code then search rows code fuel (middle + 1) high
        else some row
    else none

def CodeRow.value? (row : CodeRow) (code : Nat) : Option (List Nat) :=
  let distance := code - row.first
  match row.step with
  | .constant => some row.target
  | .every => some (row.target.modifyHead (· + distance))
  | .second =>
    if distance % 2 = 0 then some (row.target.modifyHead (· + distance)) else none

def lookup (table : CodeTable) (code : Nat) : Option (List Nat) :=
  (search table.rows code (table.rows.size + 1) 0 table.rows.size).bind (CodeRow.value? · code)

end CodeTable

end Enrolment
