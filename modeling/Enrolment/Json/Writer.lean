import Enrolment.Text.Bytes

set_option autoImplicit false

namespace Enrolment.Json

def escapeChar (char : Char) : List Char :=
  if char = '"' then ['\\', '"']
  else if char = '\\' then ['\\', '\\']
  else if char.toNat = 8 then ['\\', 'b']
  else if char.toNat = 12 then ['\\', 'f']
  else if char = '\n' then ['\\', 'n']
  else if char = '\r' then ['\\', 'r']
  else if char = '\t' then ['\\', 't']
  else if char.toNat < 32 then
    ['\\', 'u', '0', '0', Hex.lowerDigit (char.toNat / 16), Hex.lowerDigit (char.toNat % 16)]
  else [char]

def quoteChars (chars : List Char) : List Char :=
  '"' :: chars.flatMap escapeChar ++ ['"']

def quote (text : String) : String := String.ofList (quoteChars text.toList)

def quoteOption : Option String → String
  | some text => quote text
  | none => "null"

def integerText (value : Int) : String := toString value

def boolText (value : Bool) : String := if value then "true" else "false"

def object (members : List (String × String)) : String :=
  "\x7b" ++ ",".intercalate (members.map fun (name, value) => quote name ++ ":" ++ value) ++ "\x7d"

def array (values : List String) : String := "[" ++ ",".intercalate values ++ "]"

end Enrolment.Json
