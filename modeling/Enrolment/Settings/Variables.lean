import Enrolment.Settings.Tree

set_option autoImplicit false

namespace Enrolment

structure Variable where
  name : String
  value : String
  deriving Repr, DecidableEq

namespace Variable

-- The Kelvin sign is a capital letter too.
def lowerChar (char : Char) : Char := if char = '\u212a' then 'k' else asciiLower char

-- Two underscores stand for the dot of a key.
def dotted : List Char → List Char
  | '_' :: '_' :: rest => '.' :: dotted rest
  | char :: rest => char :: dotted rest
  | [] => []

def start : List Char := "waitlist_".toList

def key? (given : Variable) : Option String :=
  let name := given.name.toList.map lowerChar
  if name.take start.length = start then some (String.ofList (dotted (name.drop start.length)))
  else none

-- What looks like a truth value or a number counts as one.
def tree (given : Variable) : SettingTree :=
  let chars := given.value.toList
  let word := lowerText given.value
  if word = "true" then .boolean true
  else if word = "false" then .boolean false
  else
    match Decimal.integer? chars, Decimal.double? chars with
    | some value, _ => .integer value
    | none, some value => .real value
    | none, none => .text given.value

def entries (overrides : List Variable) : List (String × SettingTree) :=
  overrides.filterMap fun given => given.key?.map fun key => (key, given.tree)

def nameOf (key : String) : String :=
  "WAITLIST_" ++ String.ofList (key.toList.flatMap fun char =>
    if char = '.' then ['_', '_'] else [asciiUpper char])

end Variable

end Enrolment
