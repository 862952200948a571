import Enrolment.Text.Lines

set_option autoImplicit false

namespace Enrolment.Decimal

structure Binary where
  mantissa : Nat
  exponent : Int
  -- Whether the double below lies only half as far away as the one above.
  narrowBelow : Bool

structure Scientific where
  digits : Nat
  exponent : Int
  deriving Repr, DecidableEq

structure Interval where
  low : Nat
  value : Nat
  high : Nat
  denominator : Nat
  -- Whether the bounds themselves round to the value.
  closed : Bool

def Binary.interval (binary : Binary) : Interval :=
  let up := Nat.pow 2 binary.exponent.toNat
  let value := 4 * binary.mantissa * up
  { low := value - (if binary.narrowBelow then 1 else 2) * up
    value := value
    high := value + 2 * up
    denominator := 4 * Nat.pow 2 (-binary.exponent).toNat
    closed := binary.mantissa % 2 = 0 }

def Interval.inUnits (interval : Interval) (exponent : Int) : Interval :=
  let down := Nat.pow 10 exponent.toNat
  let up := Nat.pow 10 (-exponent).toNat
  { interval with
    low := interval.low * up
    value := interval.value * up
    high := interval.high * up
    denominator := interval.denominator * down }

def Interval.contains (interval : Interval) (units : Nat) : Bool :=
  let point := units * interval.denominator
  if interval.closed then interval.low ≤ point && point ≤ interval.high
  else interval.low < point && point < interval.high

-- Of the two whole numbers of units next to the value the one that lies in the interval, or the
-- nearer one of both; from the middle it is the greater one.
def Interval.whole? (interval : Interval) : Option Nat :=
  let below := interval.value / interval.denominator
  let distance := interval.value % interval.denominator
  if distance = 0 then some below
  else
    match interval.contains below, interval.contains (below + 1) with
    | false, false => none
    | true, false => some below
    | false, true => some (below + 1)
    | true, true => some (if 2 * distance < interval.denominator then below else below + 1)

def leadingPlaces (value denominator : Nat) : Nat → Nat → Nat
  | 0, places => places
  | fuel + 1, places =>
    if value * Nat.pow 10 places ≥ denominator then places
    else leadingPlaces value denominator fuel (places + 1)

def Interval.order (interval : Interval) : Int :=
  if interval.value ≥ interval.denominator then
    ((Nat.toDigits 10 (interval.value / interval.denominator)).length : Int) - 1
  else -(leadingPlaces interval.value interval.denominator 400 1 : Int)

def refine (interval : Interval) : Nat → Int → Scientific
  | 0, unit => ⟨0, unit⟩
  | steps + 1, unit =>
    match (interval.inUnits unit).whole? with
    | some digits => ⟨digits, unit⟩
    | none => refine interval steps (unit - 1)

-- The first unit tried exceeds the value, since the result may be a power of ten above it.
def Binary.shortest (binary : Binary) : Scientific :=
  refine binary.interval 20 (binary.interval.order + 1)

def binary? (value : Float) : Option Binary :=
  let bits := value.toBits.toNat % (UInt64.size / 2)
  let exponent : Nat := bits / Nat.pow 2 52
  let fraction := bits % Nat.pow 2 52
  if exponent = 2047 || bits = 0 then none
  else if exponent = 0 then some ⟨fraction, -1074, false⟩
  else some ⟨fraction + Nat.pow 2 52, (exponent : Int) - 1075, fraction = 0 && exponent > 1⟩

def isNegative (value : Float) : Bool := value.toBits.toNat ≥ UInt64.size / 2

def Scientific.positional (number : Scientific) : List Char :=
  let digits := Nat.toDigits 10 number.digits
  if number.exponent ≥ 0 then digits ++ List.replicate number.exponent.toNat '0'
  else
    let places := number.exponent.natAbs
    let padded := List.replicate (places + 1 - digits.length) '0' ++ digits
    padded.take (padded.length - places) ++ '.' :: padded.drop (padded.length - places)

def text (value : Float) : String :=
  let sign := if isNegative value then "-" else ""
  if value.isNaN then "NaN"
  else if value.isInf then sign ++ "inf"
  else
    match binary? value with
    | some binary => sign ++ String.ofList binary.shortest.positional
    | none => sign ++ "0"

end Enrolment.Decimal
