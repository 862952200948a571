import Enrolment.Json.Record
import Enrolment.Json.Writer
import Enrolment.Decimal.Shortest

set_option autoImplicit false

namespace Enrolment.Json

inductive Value
  | null
  | boolean (value : Bool)
  | number (value : Number)
  | text (value : String)
  | list (values : List Value)
  | object (members : List (String × Value))

namespace Value

def put (name : String) (value : Value) : List (String × Value) → List (String × Value)
  | [] => [(name, value)]
  | member :: members =>
    if member.1 = name then (name, value) :: members else member :: put name value members

-- Members up to the closing bracket; of two with one name the later counts.
def members (reader : Reader Value) :
    Nat → Bool → List (String × Value) → Bytes → Except Fault (List (String × Value) × Bytes)
  | 0, _, _, _ => .error .truncated
  | fuel + 1, first, read, bytes => do
    match ← nextEntry 125 first bytes with
    | none => return (read, bytes)
    | some bytes =>
      let (name, rest) ← memberName bytes
      let (value, rest) ← reader (← colon rest)
      members reader fuel false (put name value read) rest

def scalar (bytes : Bytes) : Except Fault (Value × Bytes) :=
  match bytes with
  | [] => .error .truncated
  | byte :: rest =>
    if byte = 110 then do return (null, ← literal literalNull rest)
    else if byte = 116 then do return (boolean true, ← literal literalTrue rest)
    else if byte = 102 then do return (boolean false, ← literal literalFalse rest)
    else if byte = 34 then do
      let (value, rest) ← stringAfterQuote rest
      return (text value, rest)
    else if byte = 45 || isDigit byte then do
      let (value, rest) ← Json.number bytes
      return (number value, rest)
    else .error .malformed

def reader : Nat → Reader Value
  | 0 => fun bytes =>
    match skipBlank bytes with
    | 91 :: _ => .error .malformed
    | 123 :: _ => .error .malformed
    | bytes => scalar bytes
  | depth + 1 => fun bytes =>
    match skipBlank bytes with
    | 91 :: rest => do
      let (values, rest) ← entries (reader depth) (rest.length + 1) [] rest
      return (list values, ← close 93 rest)
    | 123 :: rest => do
      let (read, rest) ← members (reader depth) (rest.length + 1) true [] rest
      return (object read, ← close 125 rest)
    | bytes => scalar bytes

def nestingLimit : Nat := 127

def parse (source : String) : Except Fault Value :=
  document (reader nestingLimit) (Bytes.ofString source)

def member? (value : Value) (name : String) : Option Value :=
  match value with
  | object members => members.lookup name
  | _ => none

mutual

def mapScalars (change : Value → Value) : Value → Value
  | list values => list (mapElements change values)
  | object members => object (mapMembers change members)
  | scalar => change scalar

def mapElements (change : Value → Value) : List Value → List Value
  | [] => []
  | value :: values => mapScalars change value :: mapElements change values

def mapMembers (change : Value → Value) : List (String × Value) → List (String × Value)
  | [] => []
  | (name, value) :: members => (name, mapScalars change value) :: mapMembers change members

end

-- A real number keeps a point, so that it does not read as an integer.
def realText (value : Float) : String :=
  let text := Decimal.text value
  if text.contains '.' then text else text ++ ".0"

def numberText : Number → String
  | .natural value => toString value
  | .negative value => "-" ++ toString value
  | .real value => realText value

mutual

def toJson : Value → String
  | null => "null"
  | boolean value => boolText value
  | number value => numberText value
  | text value => quote value
  | list values => array (listJson values)
  | object members => Json.object (membersJson members)

def listJson : List Value → List String
  | [] => []
  | value :: values => toJson value :: listJson values

def membersJson : List (String × Value) → List (String × String)
  | [] => []
  | (name, value) :: members => (name, toJson value) :: membersJson members

end

end Value

end Enrolment.Json
