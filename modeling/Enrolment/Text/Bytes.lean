set_option autoImplicit false

namespace Enrolment

abbrev Bytes := List UInt8

namespace Bytes

def ofString (text : String) : Bytes := text.toUTF8.toList

def toString? (bytes : Bytes) : Option String := String.fromUTF8? ⟨bytes.toArray⟩

def toNat (bytes : Bytes) : Nat := bytes.foldl (fun value byte => value * 256 + byte.toNat) 0

def ofNat : Nat → Nat → Bytes
  | 0, _ => []
  | size + 1, value => UInt8.ofNat (value / Nat.pow 256 size % 256) :: ofNat size value

theorem length_ofNat (size value : Nat) : (ofNat size value).length = size := by
  induction size with
  | zero => rfl
  | succ size ih => simp [ofNat, ih]

def xor (left right : Bytes) : Bytes := List.zipWith (· ^^^ ·) left right

end Bytes

namespace Hex

def lowerDigit (value : Nat) : Char :=
  if value < 10 then Char.ofNat (48 + value) else Char.ofNat (87 + value)

def upperDigit (value : Nat) : Char :=
  if value < 10 then Char.ofNat (48 + value) else Char.ofNat (55 + value)

def digit? (char : Char) : Option Nat :=
  let code := char.toNat
  if 48 ≤ code && code ≤ 57 then some (code - 48)
  else if 97 ≤ code && code ≤ 102 then some (code - 87)
  else if 65 ≤ code && code ≤ 70 then some (code - 55)
  else none

def encodeWith (digit : Nat → Char) (bytes : Bytes) : String :=
  String.ofList (bytes.flatMap fun byte => [digit (byte.toNat / 16), digit (byte.toNat % 16)])

def encodeLower : Bytes → String := encodeWith lowerDigit

def encodeUpper : Bytes → String := encodeWith upperDigit

def decode? : List Char → Option Bytes
  | [] => some []
  | [_] => none
  | high :: low :: rest => do
    let high ← digit? high
    let low ← digit? low
    return UInt8.ofNat (high * 16 + low) :: (← decode? rest)

end Hex

end Enrolment
