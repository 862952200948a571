import Enrolment.Text.Bytes
import Enrolment.Text.Lines

set_option autoImplicit false

namespace Enrolment

structure Uuid where
  value : Nat
  value_lt : value < Nat.pow 2 128
  deriving DecidableEq

namespace Uuid

def ofNat (value : Nat) : Uuid := ⟨value % Nat.pow 2 128, Nat.mod_lt _ (by decide)⟩

def groups : List Nat := [8, 4, 4, 4, 12]

def cutInto : List Nat → List Char → List (List Char)
  | [], _ => []
  | size :: sizes, chars => chars.take size :: cutInto sizes (chars.drop size)

def text (uuid : Uuid) : String :=
  let digits := (Hex.encodeLower (Bytes.ofNat 16 uuid.value)).toList
  String.ofList (List.intercalate ['-'] (cutInto groups digits))

def ofDigits? (digits : List Char) : Option Uuid := do
  if digits.length ≠ 32 then none
  return ofNat (Bytes.toNat (← Hex.decode? digits))

def ofGroups? (chars : List Char) : Option Uuid :=
  let parts := splitAt '-' chars
  if parts.map List.length = groups then ofDigits? parts.flatten else none

def unbraced? (chars : List Char) : Option (List Char) :=
  match chars with
  | first :: rest =>
    if first.toNat = 0x7b && (rest.getLast?.map Char.toNat) = some 0x7d then some rest.dropLast
    else none
  | [] => none

def namePrefix : List Char := "urn:uuid:".toList

def ofText? (text : String) : Option Uuid :=
  let chars := text.toList
  match ofDigits? chars <|> ofGroups? chars with
  | some uuid => some uuid
  | none =>
    match unbraced? chars with
    | some body => ofGroups? body
    | none =>
      if (chars.take namePrefix.length).map asciiLower = namePrefix then
        ofGroups? (chars.drop namePrefix.length)
      else none

def random (entropy : Bytes) : Uuid :=
  let fields := fun position (byte : UInt8) =>
    if position = 6 then byte % 16 + 64 else if position = 8 then byte % 64 + 128 else byte
  ofNat (Bytes.toNat ((entropy.take 16).mapIdx fields))

def version (uuid : Uuid) : Nat := uuid.value / Nat.pow 2 76 % 16

end Uuid

end Enrolment
