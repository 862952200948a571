set_option autoImplicit false

namespace Enrolment.Csv

def isSpecial (char : Char) : Bool :=
  char = ',' || char = '"' || char = '\r' || char = '\n'

def doubleQuotes (chars : List Char) : List Char :=
  chars.flatMap fun char => if char = '"' then ['"', '"'] else [char]

def field (chars : List Char) : List Char :=
  if chars.any isSpecial then '"' :: doubleQuotes chars ++ ['"'] else chars

def record (fields : List (List Char)) : List Char :=
  List.intercalate [','] (fields.map field) ++ ['\r', '\n']

def document (records : List (List (List Char))) : String :=
  String.ofList (records.flatMap record)

end Enrolment.Csv
