import Enrolment.Decimal.Reading
import Enrolment.Json.Value

set_option autoImplicit false

namespace Enrolment.Json.Value

def get (value : Value) (name : String) : Value := (value.member? name).getD null

def isNull : Value → Bool
  | null => true
  | _ => false

def has (value : Value) (name : String) : Bool := !(value.get name).isNull

def fields : Value → List (String × Value)
  | object members => members
  | _ => []

def ofStr : Value → String
  | text value => value
  | _ => ""

def str? (value : Value) (name : String) : Option String :=
  match value.get name with
  | text value => some value
  | _ => none

def str (value : Value) (name : String) : String := (value.get name).ofStr

def ofInt : Value → Int
  | number (.natural value) => value
  | number (.negative value) => -value
  | _ => 0

def int (value : Value) (name : String) : Int := (value.get name).ofInt

def nat (value : Value) (name : String) : Nat := (value.int name).toNat

def nat? (value : Value) (name : String) : Option Nat :=
  match value.get name with
  | number (.natural value) => some value
  | _ => none

def float (value : Value) (name : String) : Float :=
  match value.get name with
  | number (.natural value) => Float.ofNat value
  | number (.negative value) => -Float.ofNat value
  | number (.real value) => value
  | text value => (Decimal.double? value.toList).getD 0
  | _ => 0

def bool (value : Value) (name : String) : Bool :=
  match value.get name with
  | boolean value => value
  | _ => false

def arr (value : Value) (name : String) : List Value :=
  match value.get name with
  | list values => values
  | _ => []

def strs (value : Value) (name : String) : List String := (value.arr name).map ofStr

end Enrolment.Json.Value
