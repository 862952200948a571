import Enrolment.Text.Bytes

set_option autoImplicit false

namespace Enrolment

inductive IpAddress
  | v4 (octets : List Nat)
  | v6 (groups : List Nat)
  deriving Repr, DecidableEq

namespace IpAddress

def decimalDigit? (char : Char) : Option Nat :=
  if 48 ≤ char.toNat && char.toNat ≤ 57 then some (char.toNat - 48) else none

def digits (digit? : Char → Option Nat) : List Char → List Nat × List Char
  | [] => ([], [])
  | char :: rest =>
    match digit? char with
    | some digit =>
      let (more, rest) := digits digit? rest
      (digit :: more, rest)
    | none => ([], char :: rest)

def octet (chars : List Char) : Option (Nat × List Char) :=
  let (read, rest) := digits decimalDigit? chars
  let value := read.foldl (fun value digit => value * 10 + digit) 0
  if read.isEmpty || read.length > 3 || value > 255 then none
  else if read.head? = some 0 && read.length > 1 then none
  else some (value, rest)

def group (chars : List Char) : Option (Nat × List Char) :=
  let (read, rest) := digits Hex.digit? chars
  if read.isEmpty || read.length > 4 then none
  else some (read.foldl (fun value digit => value * 16 + digit) 0, rest)

def separated {α : Type} (separator : Char) (first : Bool)
    (read : List Char → Option (α × List Char)) (chars : List Char) : Option (α × List Char) :=
  if first then read chars
  else
    match chars with
    | char :: rest => if char = separator then read rest else none
    | [] => none

def dottedQuad (chars : List Char) : Option (List Nat × List Char) := do
  let (a, rest) ← octet chars
  let (b, rest) ← separated '.' false octet rest
  let (c, rest) ← separated '.' false octet rest
  let (d, rest) ← separated '.' false octet rest
  return ([a, b, c, d], rest)

structure Groups where
  values : List Nat
  -- Whether the last two come from a dotted quad.
  endsDotted : Bool
  rest : List Char

def groups : Nat → Bool → List Char → Groups
  | 0, _, chars => ⟨[], false, chars⟩
  | room + 1, first, chars =>
    let dotted := if room = 0 then none else separated ':' first dottedQuad chars
    match dotted with
    | some (octets, rest) =>
      ⟨[octets.getD 0 0 * 256 + octets.getD 1 0, octets.getD 2 0 * 256 + octets.getD 3 0],
        true, rest⟩
    | none =>
      match separated ':' first group chars with
      | none => ⟨[], false, chars⟩
      | some (value, rest) =>
        let more := groups room false rest
        { more with values := value :: more.values }

def readV6 (chars : List Char) : Option (List Nat × List Char) :=
  let head := groups 8 true chars
  if head.values.length = 8 then some (head.values, head.rest)
  else if head.endsDotted then none
  else
    match head.rest with
    | ':' :: ':' :: rest =>
      let tail := groups (7 - head.values.length) true rest
      let zeros := List.replicate (8 - head.values.length - tail.values.length) 0
      some (head.values ++ zeros ++ tail.values, tail.rest)
    | _ => none

def parse? (chars : List Char) : Option IpAddress :=
  match dottedQuad chars with
  | some (octets, rest) => if rest.isEmpty then some (.v4 octets) else none
  | none =>
    match readV6 chars with
    | some (values, rest) => if rest.isEmpty then some (.v6 values) else none
    | none => none

def hexText (value : Nat) : String := String.ofList (Nat.toDigits 16 value)

def zeroRun (values : List Nat) : Nat := (values.takeWhile (· = 0)).length

-- Start and length of the first of the longest runs of at least two zeros.
def longestZeroRun (values : List Nat) : Option (Nat × Nat) :=
  let runs := (List.range values.length).map fun start => (start, zeroRun (values.drop start))
  let longest := runs.foldl (fun best run => if best.2 < run.2 then run else best) (0, 0)
  if longest.2 < 2 then none else some longest

def groupsText (values : List Nat) : String := ":".intercalate (values.map hexText)

def v6Text (values : List Nat) : String :=
  match longestZeroRun values with
  | some (start, size) =>
    groupsText (values.take start) ++ "::" ++ groupsText (values.drop (start + size))
  | none => groupsText values

def v4Text (octets : List Nat) : String := ".".intercalate (octets.map toString)

def text : IpAddress → String
  | v4 octets => v4Text octets
  | v6 values => v6Text values

end IpAddress

end Enrolment
