import Enrolment.Text.Bytes

set_option autoImplicit false

namespace Enrolment.Percent

def encodeByte (byte : UInt8) : List Char :=
  ['%', Hex.upperDigit (byte.toNat / 16), Hex.upperDigit (byte.toNat % 16)]

def encodeChar (reserved : Char → Bool) (char : Char) : List Char :=
  if char.toNat < 128 && !reserved char then [char]
  else (String.utf8EncodeChar char).flatMap encodeByte

def encode (reserved : Char → Bool) (chars : List Char) : List Char :=
  chars.flatMap (encodeChar reserved)

def pair? (high low : UInt8) : Option UInt8 := do
  let high ← Hex.digit? (Char.ofNat high.toNat)
  let low ← Hex.digit? (Char.ofNat low.toNat)
  return UInt8.ofNat (high * 16 + low)

def decode : Bytes → Bytes
  | byte :: high :: low :: rest =>
    match if byte = 37 then pair? high low else none with
    | some decoded => decoded :: decode rest
    | none => byte :: decode (high :: low :: rest)
  | bytes => bytes

def decodeText? (text : String) : Option String := Bytes.toString? (decode (Bytes.ofString text))

end Enrolment.Percent
