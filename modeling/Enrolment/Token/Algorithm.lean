import Enrolment.Text.Lines

set_option autoImplicit false

namespace Enrolment

inductive Algorithm
  | hs256
  | hs512
  | es256
  | es384
  deriving Repr, DecidableEq, Inhabited

namespace Algorithm

def all : List Algorithm := [hs256, hs512, es256, es384]

def name : Algorithm → String
  | hs256 => "HS256"
  | hs512 => "HS512"
  | es256 => "ES256"
  | es384 => "ES384"

def isSymmetric : Algorithm → Bool
  | hs256 | hs512 => true
  | es256 | es384 => false

def ofName? (text : String) : Option Algorithm := all.find? (fun algorithm => algorithm.name == text)

def parse? (text : String) : Option Algorithm :=
  ofName? (String.ofList (text.toList.map asciiUpper))

def unknownMessage (name : String) : String := "unknown signing algorithm: " ++ name

end Algorithm

end Enrolment
