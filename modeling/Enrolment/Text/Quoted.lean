import Enrolment.Text.Escaped

set_option autoImplicit false

namespace Enrolment.Quoted

def hexDigits : Nat → Nat → List Char → List Char
  | 0, _, digits => digits
  | fuel + 1, value, digits =>
    let digits := Hex.lowerDigit (value % 16) :: digits
    if value < 16 then digits else hexDigits fuel (value / 16) digits

def codeEscape (code : Nat) : List Char :=
  ['\\', 'u', Char.ofNat 0x7b] ++ hexDigits 8 code [] ++ [Char.ofNat 0x7d]

def escapeChar (char : Char) : List Char :=
  let code := char.toNat
  if code = 0 then ['\\', '0']
  else if char = '\t' then ['\\', 't']
  else if char = '\r' then ['\\', 'r']
  else if char = '\n' then ['\\', 'n']
  else if char = '"' then ['\\', '"']
  else if char = '\\' then ['\\', '\\']
  else if 32 ≤ code && code < 127 then [char]
  else if escaped.get.contains code then codeEscape code
  else [char]

def encode (text : String) : String :=
  String.ofList ('"' :: text.toList.flatMap escapeChar ++ ['"'])

def encodeOption : Option String → String
  | some text => "Some(" ++ encode text ++ ")"
  | none => "None"

end Enrolment.Quoted
