import Enrolment.Text.Bytes

set_option autoImplicit false

namespace Enrolment.Json

inductive Fault
  -- The text is not JSON.
  | malformed
  -- The text ends inside or before a value.
  | truncated
  -- JSON of another shape than expected.
  | mismatched
  deriving Repr, DecidableEq

abbrev Reader (α : Type) := Bytes → Except Fault (α × Bytes)

def isBlank (byte : UInt8) : Bool := byte == 32 || byte == 9 || byte == 10 || byte == 13

def skipBlank (bytes : Bytes) : Bytes := bytes.dropWhile isBlank

def isDigit (byte : UInt8) : Bool := 48 ≤ byte && byte ≤ 57

def digitValue (byte : UInt8) : Nat := byte.toNat - 48

def literal : Bytes → Bytes → Except Fault Bytes
  | [], bytes => .ok bytes
  | _ :: _, [] => .error .truncated
  | expected :: more, byte :: rest =>
    if byte = expected then literal more rest else .error .malformed

def literalTrue : Bytes := [114, 117, 101]
def literalFalse : Bytes := [97, 108, 115, 101]
def literalNull : Bytes := [117, 108, 108]

-- Four hexadecimal digits; fewer than four remaining bytes are a truncated text.
def hexUnit : Bytes → Except Fault (Nat × Bytes)
  | a :: b :: c :: d :: rest =>
    match [a, b, c, d].mapM (fun byte => Hex.digit? (Char.ofNat byte.toNat)) with
    | some digits => .ok (digits.foldl (fun value digit => value * 16 + digit) 0, rest)
    | none => .error .malformed
  | _ => .error .truncated

def isHighSurrogate (unit : Nat) : Bool := 0xD800 ≤ unit && unit ≤ 0xDBFF

def isLowSurrogate (unit : Nat) : Bool := 0xDC00 ≤ unit && unit ≤ 0xDFFF

def charBytes (code : Nat) : Bytes := String.utf8EncodeChar (Char.ofNat code)

-- The character of a `\u` escape, of which only the letter has been read. Surrogates have to come
-- as a pair of escapes.
def unicodeEscape (bytes : Bytes) : Except Fault (Bytes × Bytes) := do
  let (unit, rest) ← hexUnit bytes
  if isLowSurrogate unit then throw .malformed
  if !isHighSurrogate unit then return (charBytes unit, rest)
  match rest with
  | 92 :: 117 :: rest =>
    let (low, rest) ← hexUnit rest
    if isLowSurrogate low then
      return (charBytes (0x10000 + (unit - 0xD800) * 0x400 + (low - 0xDC00)), rest)
    else throw .malformed
  | [] | [92] => throw .truncated
  | _ => throw .malformed

def shortEscape? (letter : UInt8) : Option UInt8 :=
  if letter == 34 || letter == 92 || letter == 47 then some letter
  else if letter == 98 then some 8
  else if letter == 102 then some 12
  else if letter == 110 then some 10
  else if letter == 114 then some 13
  else if letter == 116 then some 9
  else none

def escape : Bytes → Except Fault (Bytes × Bytes)
  | [] => .error .truncated
  | 117 :: rest => unicodeEscape rest
  | letter :: rest =>
    match shortEscape? letter with
    | some byte => .ok ([byte], rest)
    | none => .error .malformed

def stringBody : Nat → Bytes → Bytes → Except Fault (Bytes × Bytes)
  | 0, _, _ => .error .truncated
  | _ + 1, _, [] => .error .truncated
  | fuel + 1, read, byte :: rest =>
    if byte = 34 then .ok (read.reverse, rest)
    else if byte = 92 then
      match escape rest with
      | .ok (bytes, rest) => stringBody fuel (bytes.reverse ++ read) rest
      | .error fault => .error fault
    else if byte < 32 then .error .malformed
    else stringBody fuel (byte :: read) rest

def stringAfterQuote (bytes : Bytes) : Except Fault (String × Bytes) := do
  let (contents, rest) ← stringBody (bytes.length + 1) [] bytes
  match Bytes.toString? contents with
  | some text => return (text, rest)
  | none => throw .malformed

inductive Number
  | natural (value : Nat)
  -- The negative of a positive value.
  | negative (value : Nat)
  | real (value : Float)

def significandLimit : Nat := UInt64.size

-- Reads digits as long as the significand fits 64 bits, then drops further digits.
structure Digits where
  significand : Nat
  kept : Nat
  dropped : Nat
  rest : Bytes

def scanDigits (significand kept dropped : Nat) : Bytes → Digits
  | [] => ⟨significand, kept, dropped, []⟩
  | byte :: rest =>
    if isDigit byte then
      let next := significand * 10 + digitValue byte
      if dropped = 0 && next < significandLimit then scanDigits next (kept + 1) 0 rest
      else scanDigits significand kept (dropped + 1) rest
    else ⟨significand, kept, dropped, byte :: rest⟩

def powerOfTen (exponent : Nat) : Float := Float.ofScientific 1 false exponent

def scaleDown : Nat → Float → Nat → Float
  | 0, _, _ => 0
  | fuel + 1, value, exponent =>
    if exponent ≤ 308 then value / powerOfTen exponent
    else if value == 0 then value
    else scaleDown fuel (value / powerOfTen 308) (exponent - 308)

-- `significand * 10 ^ exponent` in one multiplication, or by divisions; none if it is infinite.
def scale (significand : Nat) (exponent : Int) : Option Float :=
  let value := Float.ofNat significand
  if exponent < 0 then some (scaleDown 4 value exponent.natAbs)
  else if exponent ≤ 308 then
    let scaled := value * powerOfTen exponent.toNat
    if scaled.isInf then none else some scaled
  else if significand = 0 then some 0
  else none

def signed (isNegative : Bool) (value : Float) : Float := if isNegative then -value else value

def realNumber (isNegative : Bool) (significand : Nat) (exponent : Int) (rest : Bytes) :
    Except Fault (Number × Bytes) :=
  match scale significand exponent with
  | some value => .ok (.real (signed isNegative value), rest)
  | none => .error .malformed

def exponentPart (isNegative : Bool) (significand : Nat) (exponent : Int) (bytes : Bytes) :
    Except Fault (Number × Bytes) :=
  let (down, bytes) := match bytes with
    | 43 :: rest => (false, rest)
    | 45 :: rest => (true, rest)
    | _ => (false, bytes)
  match bytes with
  | [] => .error .truncated
  | byte :: _ =>
    if isDigit byte then
      let digits := bytes.takeWhile isDigit
      let value := digits.foldl (fun value byte => value * 10 + digitValue byte) 0
      let exponent := if down then exponent - value else exponent + value
      realNumber isNegative significand exponent (bytes.dropWhile isDigit)
    else .error .malformed

def isExponentLetter (byte : UInt8) : Bool := byte == 101 || byte == 69

def fractionPart (isNegative : Bool) (significand : Nat) (exponent : Int) (bytes : Bytes) :
    Except Fault (Number × Bytes) :=
  let digits := scanDigits significand 0 0 bytes
  let exponent := exponent - digits.kept
  if digits.kept = 0 && digits.dropped = 0 then
    .error (if bytes.isEmpty then .truncated else .malformed)
  else
    match digits.rest with
    | byte :: rest =>
      if isExponentLetter byte then exponentPart isNegative digits.significand exponent rest
      else realNumber isNegative digits.significand exponent digits.rest
    | [] => realNumber isNegative digits.significand exponent []

def integerNumber (isNegative : Bool) (value : Nat) : Number :=
  if !isNegative then .natural value
  else if 0 < value && value ≤ UInt64.size / 2 then .negative value
  else .real (-Float.ofNat value)

def numberTail (isNegative : Bool) (digits : Digits) : Except Fault (Number × Bytes) :=
  let whole : Except Fault (Number × Bytes) :=
    if digits.dropped = 0 then .ok (integerNumber isNegative digits.significand, digits.rest)
    else realNumber isNegative digits.significand digits.dropped digits.rest
  match digits.rest with
  | byte :: rest =>
    if byte = 46 then fractionPart isNegative digits.significand digits.dropped rest
    else if isExponentLetter byte then
      exponentPart isNegative digits.significand digits.dropped rest
    else whole
  | [] => whole

def unsignedNumber (isNegative : Bool) : Bytes → Except Fault (Number × Bytes)
  | [] => .error .truncated
  | byte :: rest =>
    if byte = 48 then
      match rest with
      | next :: _ =>
        if isDigit next then .error .malformed else numberTail isNegative ⟨0, 1, 0, rest⟩
      | [] => numberTail isNegative ⟨0, 1, 0, []⟩
    else if isDigit byte then numberTail isNegative (scanDigits 0 0 0 (byte :: rest))
    else .error .malformed

def number : Bytes → Except Fault (Number × Bytes)
  | 45 :: rest => unsignedNumber true rest
  | bytes => unsignedNumber false bytes

-- The contents of a skipped string are not decoded: any bytes and any `\u` escapes will do.
def skipString : Nat → Bytes → Except Fault Bytes
  | 0, _ => .error .truncated
  | _ + 1, [] => .error .truncated
  | fuel + 1, byte :: rest =>
    if byte = 34 then .ok rest
    else if byte = 92 then
      match rest with
      | [] => .error .truncated
      | 117 :: rest =>
        match hexUnit rest with
        | .ok (_, rest) => skipString fuel rest
        | .error fault => .error fault
      | letter :: rest =>
        if (shortEscape? letter).isSome then skipString fuel rest else .error .malformed
    else if byte < 32 then .error .malformed
    else skipString fuel rest

def skipExponent (bytes : Bytes) : Except Fault Bytes :=
  let bytes := match bytes with
    | 43 :: rest => rest
    | 45 :: rest => rest
    | _ => bytes
  match bytes with
  | byte :: _ => if isDigit byte then .ok (bytes.dropWhile isDigit) else .error .malformed
  | [] => .error .malformed

def skipAfterFraction (bytes : Bytes) : Except Fault Bytes :=
  match bytes with
  | byte :: rest => if isExponentLetter byte then skipExponent rest else .ok bytes
  | [] => .ok []

-- A skipped number has no range; one that breaks off is malformed.
def skipUnsigned : Bytes → Except Fault Bytes
  | [] => .error .malformed
  | byte :: rest =>
    if !isDigit byte then .error .malformed
    else
      let after := if byte = 48 then rest else rest.dropWhile isDigit
      match after with
      | next :: more =>
        if isDigit next then .error .malformed
        else if next = 46 then
          match more with
          | digit :: _ =>
            if isDigit digit then skipAfterFraction (more.dropWhile isDigit)
            else .error .malformed
          | [] => .error .malformed
        else if isExponentLetter next then skipExponent more
        else .ok after
      | [] => .ok []

def skipScalar : Bytes → Except Fault Bytes
  | [] => .error .truncated
  | byte :: rest =>
    if byte = 110 then literal literalNull rest
    else if byte = 116 then literal literalTrue rest
    else if byte = 102 then literal literalFalse rest
    else if byte = 34 then skipString (rest.length + 1) rest
    else if byte = 45 then skipUnsigned rest
    else if isDigit byte then skipUnsigned (byte :: rest)
    else .error .malformed

inductive Open
  | list
  | object
  deriving DecidableEq

inductive Expect
  | value
  -- A member name of the innermost object.
  | key
  -- The first entry of a bracket just opened, or its end.
  | entry
  -- A comma or the end of the innermost bracket.
  | separator
  deriving DecidableEq

def skipKey (bytes : Bytes) : Except Fault Bytes :=
  match skipBlank bytes with
  | 34 :: rest =>
    match skipString (rest.length + 1) rest with
    | .ok rest =>
      match skipBlank rest with
      | 58 :: rest => .ok rest
      | [] => .error .truncated
      | _ => .error .malformed
    | .error fault => .error fault
  | [] => .error .truncated
  | _ => .error .malformed

def Open.closing : Open → UInt8
  | .list => 93
  | .object => 125

def Open.first : Open → Expect
  | .list => .value
  | .object => .key

-- Skips one value, nested to any depth; the brackets still open are kept on a stack.
def skipNested : Nat → List Open → Expect → Bytes → Except Fault Bytes
  | 0, _, _, _ => .error .truncated
  | fuel + 1, stack, .value, bytes =>
    match skipBlank bytes with
    | 91 :: rest => skipNested fuel (.list :: stack) .entry rest
    | 123 :: rest => skipNested fuel (.object :: stack) .entry rest
    | bytes =>
      match skipScalar bytes with
      | .ok rest => if stack.isEmpty then .ok rest else skipNested fuel stack .separator rest
      | .error fault => .error fault
  | fuel + 1, stack, .key, bytes =>
    match skipKey bytes with
    | .ok rest => skipNested fuel stack .value rest
    | .error fault => .error fault
  | fuel + 1, stack, .entry, bytes =>
    match stack, skipBlank bytes with
    | [], bytes => .ok bytes
    | _ :: _, [] => .error .truncated
    | bracket :: outer, byte :: rest =>
      if byte = bracket.closing then
        if outer.isEmpty then .ok rest else skipNested fuel outer .separator rest
      else skipNested fuel stack bracket.first (byte :: rest)
  | fuel + 1, stack, .separator, bytes =>
    match stack, skipBlank bytes with
    | [], bytes => .ok bytes
    | _ :: _, [] => .error .truncated
    | bracket :: outer, byte :: rest =>
      if byte = 44 then skipNested fuel stack bracket.first rest
      else if byte = bracket.closing then
        if outer.isEmpty then .ok rest else skipNested fuel outer .separator rest
      else .error .malformed

def skipValue (bytes : Bytes) : Except Fault Bytes :=
  skipNested (3 * bytes.length + 3) [] .value bytes

end Enrolment.Json
