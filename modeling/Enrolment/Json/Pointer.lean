import Enrolment.Decimal.Reading
import Enrolment.Json.Value

set_option autoImplicit false

namespace Enrolment.Json

def pointerName : List Char → List Char
  | '~' :: '1' :: rest => '/' :: pointerName rest
  | '~' :: '0' :: rest => '~' :: pointerName rest
  | char :: rest => char :: pointerName rest
  | [] => []

def position? (name : List Char) : Option Nat :=
  if name.head? = some '+' || (name.length > 1 && name.head? = some '0') then none
  else Decimal.natural? UInt64.size name

namespace Value

def child? (value : Value) (name : List Char) : Option Value :=
  match value with
  | list values => (position? name).bind fun position => values[position]?
  | value => value.member? (String.ofList name)

def at? (value : Value) (pointer : String) : Option Value :=
  match splitAt '/' pointer.toList with
  | [] :: names => (names.map pointerName).foldlM child? value
  | _ => none

end Value

end Enrolment.Json
