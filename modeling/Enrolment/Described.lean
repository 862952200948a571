import Enrolment.Text.Quoted

set_option autoImplicit false

namespace Enrolment.Described

def braces (name contents : String) : String := name ++ " \x7b " ++ contents ++ " \x7d"

def fieldTexts (fields : List (String × String)) : List String :=
  fields.map fun (field, value) => field ++ ": " ++ value

def whole (name : String) (fields : List (String × String)) : String :=
  braces name (", ".intercalate (fieldTexts fields))

def partly (name : String) (fields : List (String × String)) : String :=
  braces name (", ".intercalate (fieldTexts fields ++ [".."]))

def seconds (count : Nat) : String := if count = 0 then "0ns" else s!"{count}s"

end Enrolment.Described
