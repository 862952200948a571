import Enrolment.Text.Bytes

set_option autoImplicit false

namespace Enrolment.Base64

structure Variant where
  -- The symbols of the values 62 and 63.
  last : Char × Char
  padded : Bool

def standard : Variant := ⟨('+', '/'), true⟩

def urlSafe : Variant := ⟨('-', '_'), false⟩

def pad : UInt8 := 61

namespace Variant

def symbol (variant : Variant) (value : Nat) : Char :=
  if value < 26 then Char.ofNat (65 + value)
  else if value < 52 then Char.ofNat (71 + value)
  else if value < 62 then Char.ofNat (value - 4)
  else if value = 62 then variant.last.1
  else variant.last.2

def value? (variant : Variant) (byte : UInt8) : Option Nat :=
  let code := byte.toNat
  if 65 ≤ code && code ≤ 90 then some (code - 65)
  else if 97 ≤ code && code ≤ 122 then some (code - 71)
  else if 48 ≤ code && code ≤ 57 then some (code + 4)
  else if code = variant.last.1.toNat then some 62
  else if code = variant.last.2.toNat then some 63
  else none

def isSymbol (variant : Variant) (byte : UInt8) : Bool := (variant.value? byte).isSome

end Variant

def encodeChars (variant : Variant) : Bytes → List Char
  | a :: b :: c :: rest =>
    variant.symbol (a.toNat / 4) ::
    variant.symbol (a.toNat % 4 * 16 + b.toNat / 16) ::
    variant.symbol (b.toNat % 16 * 4 + c.toNat / 64) ::
    variant.symbol (c.toNat % 64) :: encodeChars variant rest
  | [a, b] =>
    variant.symbol (a.toNat / 4) ::
    variant.symbol (a.toNat % 4 * 16 + b.toNat / 16) ::
    variant.symbol (b.toNat % 16 * 4) :: if variant.padded then ['='] else []
  | [a] =>
    variant.symbol (a.toNat / 4) ::
    variant.symbol (a.toNat % 4 * 16) :: if variant.padded then ['=', '='] else []
  | [] => []

def encode (variant : Variant) (bytes : Bytes) : String :=
  String.ofList (encodeChars variant bytes)

def readPair (variant : Variant) (a b : UInt8) : Option Bytes := do
  let a ← variant.value? a
  let b ← variant.value? b
  if b % 16 = 0 then some [UInt8.ofNat (a * 4 + b / 16)] else none

def readTriple (variant : Variant) (a b c : UInt8) : Option Bytes := do
  let a ← variant.value? a
  let b ← variant.value? b
  let c ← variant.value? c
  if c % 4 = 0 then
    some [UInt8.ofNat (a * 4 + b / 16), UInt8.ofNat (b % 16 * 16 + c / 4)]
  else none

def readQuad (variant : Variant) (a b c d : UInt8) : Option Bytes := do
  let a ← variant.value? a
  let b ← variant.value? b
  let c ← variant.value? c
  let d ← variant.value? d
  some [UInt8.ofNat (a * 4 + b / 16), UInt8.ofNat (b % 16 * 16 + c / 4),
    UInt8.ofNat (c % 4 * 64 + d)]

def read? (variant : Variant) : Bytes → Option Bytes
  | [] => some []
  | [_] => none
  | [a, b] => if variant.padded then none else readPair variant a b
  | [a, b, c] => if variant.padded then none else readTriple variant a b c
  | [a, b, c, d] =>
    if variant.padded && d = pad then
      if c = pad then readPair variant a b else readTriple variant a b c
    else readQuad variant a b c d
  | a :: b :: c :: d :: rest => do
    let head ← readQuad variant a b c d
    let tail ← read? variant rest
    return head ++ tail

inductive Fault
  | byte (value offset : Nat)
  | lastSymbol (value offset : Nat)
  | remainder
  | padding
  deriving Repr, DecidableEq

def Fault.message : Fault → String
  | byte value offset => s!"Invalid byte {value}, offset {offset}."
  | lastSymbol value offset => s!"Invalid last symbol {value}, offset {offset}."
  | remainder => "Encoded text cannot have a 6-bit remainder."
  | padding => "Invalid padding"

def firstForeign (variant : Variant) (offset : Nat) : Bytes → Option Fault
  | [] => none
  | byte :: rest =>
    if variant.isSymbol byte then firstForeign variant (offset + 1) rest
    else some (.byte byte.toNat offset)

-- What is wrong inside the last group of at most eight bytes, where padding may stand: padding
-- belongs to the third or fourth place of a quad, and only padding follows it.
def tailFault (variant : Variant) (offset : Nat) (padStart : Option Nat) : Bytes → Option Fault
  | [] => none
  | byte :: rest =>
    if byte = pad then
      if offset % 4 < 2 then some (.byte pad.toNat (padStart.getD offset))
      else tailFault variant (offset + 1) (some (padStart.getD offset)) rest
    else
      match padStart with
      | some start => some (.byte pad.toNat start)
      | none =>
        if variant.isSymbol byte then tailFault variant (offset + 1) none rest
        else some (.byte byte.toNat offset)

def lastSymbolOf (text : Bytes) : Nat × Nat :=
  let symbols := text.filter (· != pad)
  ((symbols.getLast?.getD 0).toNat, symbols.length - 1)

-- The fault reported for a text that is not in strict form. A length that leaves one symbol over is
-- reported first, then the bytes from the left, then missing or needless padding, and at the end
-- unused bits that are set.
def diagnose (variant : Variant) (text : Bytes) : Fault :=
  let size := text.length
  if size % 4 = 1 then
    match text.getLast? with
    | some byte =>
      if byte != pad && !variant.isSymbol byte then .byte byte.toNat (size - 1) else .remainder
    | none => .remainder
  else
    let start := (size - 1) / 8 * 8
    match firstForeign variant 0 (text.take start) with
    | some fault => fault
    | none =>
      match tailFault variant start none (text.drop start) with
      | some fault => fault
      | none =>
        let padding := text.countP (· == pad)
        if (variant.padded && size % 4 != 0) || (!variant.padded && padding != 0) then .padding
        else
          let (value, offset) := lastSymbolOf text
          .lastSymbol value offset

def decode (variant : Variant) (text : Bytes) : Except Fault Bytes :=
  match read? variant text with
  | some bytes => .ok bytes
  | none => .error (diagnose variant text)

end Enrolment.Base64
