import Enrolment.Text.Lines

set_option autoImplicit false

namespace Enrolment.Idna

def digitBase : Nat := 36
def leastThreshold : Nat := 1
def greatestThreshold : Nat := 26
def startBias : Nat := 72
def startCode : Nat := 128

def numberLimit : Nat := UInt32.size

-- Digits at or above the threshold of their place are followed by others.
def threshold (place bias : Nat) : Nat :=
  if place ≤ bias then leastThreshold
  else if place ≥ bias + greatestThreshold then greatestThreshold
  else place - bias

def reduceDelta : Nat → Nat → Nat → Nat
  | 0, _, bias => bias
  | fuel + 1, delta, bias =>
    if delta > (digitBase - leastThreshold) * greatestThreshold / 2 then
      reduceDelta fuel (delta / (digitBase - leastThreshold)) (bias + digitBase)
    else bias + (digitBase - leastThreshold + 1) * delta / (delta + 38)

def adapt (delta points : Nat) (first : Bool) : Nat :=
  let delta := if first then delta / 700 else delta / 2
  reduceDelta 8 (delta + delta / points) 0

def digitChar (value : Nat) : Char :=
  if value < 26 then Char.ofNat (97 + value) else Char.ofNat (22 + value)

def digitValue? (char : Char) : Option Nat :=
  let code := char.toNat
  if 48 ≤ code && code ≤ 57 then some (code - 22)
  else if isAsciiLetter char then some ((asciiLower char).toNat - 97)
  else none

def encodeNumber : Nat → Nat → Nat → Nat → List Char
  | 0, _, _, _ => []
  | fuel + 1, value, place, bias =>
    let t := threshold place bias
    if value < t then [digitChar value]
    else
      digitChar (t + (value - t) % (digitBase - t)) ::
        encodeNumber fuel ((value - t) / (digitBase - t)) (place + digitBase) bias

structure Encoder where
  output : List Char
  delta : Nat
  bias : Nat
  -- The characters written so far, and how many of them are ASCII.
  written : Nat
  basic : Nat

def encodePass (code : Nat) : List Char → Encoder → Encoder
  | [], state => state
  | char :: rest, state =>
    if char.toNat < code then encodePass code rest { state with delta := state.delta + 1 }
    else if char.toNat = code then
      encodePass code rest
        { state with
          output := state.output ++ encodeNumber 10 state.delta digitBase state.bias
          bias := adapt state.delta (state.written + 1) (state.written = state.basic)
          delta := 0
          written := state.written + 1 }
    else encodePass code rest state

def encodeFrom (label : List Char) : List Nat → Nat → Encoder → Option Encoder
  | [], _, state => some state
  | code :: codes, next, state =>
    let delta := state.delta + (code - next) * (state.written + 1)
    if delta < numberLimit then
      let state := encodePass code label { state with delta := delta }
      encodeFrom label codes (code + 1) { state with delta := state.delta + 1 }
    else none

def risingCodes (codes : List Nat) : List Nat :=
  (codes.mergeSort (· ≤ ·)).eraseReps

def punycode? (label : List Char) : Option (List Char) :=
  let basic := label.filter (·.toNat < startCode)
  let others := risingCodes ((label.map Char.toNat).filter (· ≥ startCode))
  let start := if basic.isEmpty then [] else basic ++ ['-']
  (encodeFrom label others startCode ⟨start, 0, startBias, basic.length, basic.length⟩).map
    Encoder.output

def decodeNumber : List Char → Nat → Nat → Nat → Nat → Option (Nat × List Char)
  | [], _, _, _, _ => none
  | char :: rest, value, weight, place, bias => do
    let digit ← digitValue? char
    let value := value + digit * weight
    if value ≥ numberLimit then none
    else
      let t := threshold place bias
      if digit < t then some (value, rest)
      else
        let weight := weight * (digitBase - t)
        if weight ≥ numberLimit then none
        else decodeNumber rest value weight (place + digitBase) bias

def validChar? (code : Nat) : Option Char :=
  if h : code.isValidChar then some (Char.ofNatAux code h) else none

def insertAt (label : List Char) (position : Nat) (char : Char) : List Char :=
  label.take position ++ char :: label.drop position

def decodeInsertions : Nat → List Char → Nat → Nat → Nat → List Char → Option (List Char)
  | 0, _, _, _, _, label => some label
  | _ + 1, [], _, _, _, label => some label
  | fuel + 1, input, position, code, bias, label => do
    let (value, rest) ← decodeNumber input position 1 digitBase bias
    let size := label.length + 1
    let bias := adapt (value - position) size (position = 0)
    let code := code + value / size
    let char ← validChar? code
    let position := value % size
    decodeInsertions fuel rest (position + 1) code bias (insertAt label position char)

-- The label that a text encodes; what stands before the last hyphen is taken as it is.
def unpunycode? (text : List Char) : Option (List Char) :=
  let behind := (text.reverse.takeWhile (· ≠ '-')).reverse
  let hyphen := text.length - behind.length
  let (basic, input) :=
    if hyphen = 0 then ([], text)
    else if hyphen = 1 then ([], text)
    else (text.take (hyphen - 1), behind)
  if basic.all (·.toNat < startCode) then
    decodeInsertions (input.length + 1) input 0 startCode startBias basic
  else none

end Enrolment.Idna
