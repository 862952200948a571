import Enrolment.Text.Lines

set_option autoImplicit false

namespace Enrolment.Decimal

def digitsValue (digits : List Char) : Nat :=
  digits.foldl (fun value char => value * 10 + (char.toNat - 48)) 0

def allDigits (chars : List Char) : Bool := !chars.isEmpty && chars.all isAsciiDigit

def natural? (limit : Nat) (chars : List Char) : Option Nat :=
  let digits := match chars with
    | '+' :: rest => rest
    | _ => chars
  if allDigits digits && digitsValue digits < limit then some (digitsValue digits) else none

def integer? (chars : List Char) : Option Int :=
  match chars with
  | '-' :: digits =>
    if allDigits digits && digitsValue digits ≤ UInt64.size / 2 then some (-(digitsValue digits : Int))
    else none
  | _ => (natural? (UInt64.size / 2) chars).map Int.ofNat

-- An exponent of ten, cut to where it no longer makes a difference.
def exponent? (chars : List Char) : Option Int :=
  let (negative, digits) := match chars with
    | '-' :: rest => (true, rest)
    | '+' :: rest => (false, rest)
    | _ => (false, chars)
  if allDigits digits then
    let value : Int := min (digitsValue digits) 100000
    some (if negative then -value else value)
  else none

def nearest (significand : Nat) (exponent : Int) : Float :=
  let size := (Nat.toDigits 10 significand).length
  if significand = 0 || exponent + size < -400 then 0
  else if exponent + size > 400 then 1.0 / 0.0
  else Float.ofScientific significand (exponent < 0) exponent.natAbs

def unsignedDouble? (chars : List Char) : Option Float :=
  let whole := chars.takeWhile isAsciiDigit
  let rest := chars.dropWhile isAsciiDigit
  let (fraction, rest) := match rest with
    | '.' :: rest => (rest.takeWhile isAsciiDigit, rest.dropWhile isAsciiDigit)
    | _ => ([], rest)
  if whole.isEmpty && fraction.isEmpty then none
  else
    let significand := digitsValue (whole ++ fraction)
    let scaled (exponent : Int) : Float := nearest significand (exponent - fraction.length)
    match rest with
    | [] => some (scaled 0)
    | mark :: rest => if asciiLower mark = 'e' then (exponent? rest).map scaled else none

def double? (chars : List Char) : Option Float :=
  let (negative, rest) := match chars with
    | '-' :: rest => (true, rest)
    | '+' :: rest => (false, rest)
    | _ => (false, chars)
  let word := String.ofList (rest.map asciiLower)
  let value :=
    if word = "nan" then some (0.0 / 0.0)
    else if word = "inf" || word = "infinity" then some (1.0 / 0.0)
    else unsignedDouble? rest
  value.map fun value => if negative then -value else value

end Enrolment.Decimal
