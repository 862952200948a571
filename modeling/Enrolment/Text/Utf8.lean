import Enrolment.Text.Bytes

set_option autoImplicit false

namespace Enrolment.Utf8

-- What a leading byte announces: how many bytes follow, and the range of the first of these.
structure Lead where
  following : Nat
  low : UInt8
  high : UInt8

def lead? (byte : UInt8) : Option Lead :=
  if 0xC2 ≤ byte && byte ≤ 0xDF then some ⟨1, 0x80, 0xBF⟩
  else if byte = 0xE0 then some ⟨2, 0xA0, 0xBF⟩
  else if byte = 0xED then some ⟨2, 0x80, 0x9F⟩
  else if 0xE1 ≤ byte && byte ≤ 0xEF then some ⟨2, 0x80, 0xBF⟩
  else if byte = 0xF0 then some ⟨3, 0x90, 0xBF⟩
  else if 0xF1 ≤ byte && byte ≤ 0xF3 then some ⟨3, 0x80, 0xBF⟩
  else if byte = 0xF4 then some ⟨3, 0x80, 0x8F⟩
  else none

def continuation (lead : Lead) (bytes : Bytes) : Bytes :=
  match lead.following, bytes with
  | following + 1, first :: rest =>
    if lead.low ≤ first && first ≤ lead.high then
      first :: (rest.take following).takeWhile fun byte => 0x80 ≤ byte && byte ≤ 0xBF
    else []
  | _, _ => []

def replacement : Char := Char.ofNat 0xFFFD

def codeOf (first : UInt8) (following : Bytes) : Nat :=
  let start := first.toNat % Nat.pow 2 (6 - following.length)
  following.foldl (fun code byte => code * 64 + byte.toNat % 64) start

def decodeFrom : Nat → Bytes → List Char
  | 0, _ => []
  | _ + 1, [] => []
  | fuel + 1, byte :: rest =>
    if byte < 0x80 then Char.ofNat byte.toNat :: decodeFrom fuel rest
    else
      match lead? byte with
      | none => replacement :: decodeFrom fuel rest
      | some lead =>
        let following := continuation lead rest
        let char :=
          if following.length = lead.following then Char.ofNat (codeOf byte following)
          else replacement
        char :: decodeFrom fuel (rest.drop following.length)

def decodeReplacing (bytes : Bytes) : List Char := decodeFrom bytes.length bytes

end Enrolment.Utf8
