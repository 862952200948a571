import Enrolment.Http.Problem
import Enrolment.IpAddress
import Enrolment.Text.Bytes

set_option autoImplicit false

namespace Enrolment

abbrev Headers := List (String × String)

def Headers.first? (headers : Headers) (name : String) : Option String :=
  (headers.find? fun header => lowerText header.1 == name).map Prod.snd

-- The value of a header as it is kept, with one character for each byte that came in.
def Headers.valueText (value : Bytes) : String :=
  String.ofList (value.map fun byte => Char.ofNat byte.toNat)

-- Whether a header value can be read as text: visible ASCII, blanks and tabs.
def isHeaderText (value : String) : Bool :=
  value.toList.all fun char => (32 ≤ char.toNat && char.toNat < 127) || char = '\t'

structure Request where
  method : String := "GET"
  -- Path and query.
  target : String
  headers : Headers := []
  body : Bytes := []
  peer : IpAddress := .v4 [127, 0, 0, 1]
  -- What a parser that refuses the request says behind its first phrase, in words of its own.
  remark : String := ""

namespace Request

def headerText? (request : Request) (name : String) : Option String :=
  match request.headers.first? name with
  | some value => if isHeaderText value then some value else none
  | none => none

def withoutFragment (request : Request) : List Char := (cutAt '#' request.target.toList).1

def path (request : Request) : List Char := (cutAt '?' request.withoutFragment).1

def query (request : Request) : List Char := ((cutAt '?' request.withoutFragment).2).getD []

def segments (request : Request) : List (List Char) := (splitAt '/' request.path).tail

end Request

structure Response where
  status : Nat
  headers : Headers := []
  body : String := ""
  deriving Repr, DecidableEq

namespace Response

def json (status : Nat) (body : String) : Response :=
  ⟨status, [("content-type", "application/json")], body⟩

def problem (problem : Problem) : Response := json problem.status (Problem.body [problem])

def plainText (status : Nat) (body : String) : Response :=
  ⟨status, [("content-type", "text/plain; charset=utf-8")], body⟩

def empty (status : Nat) : Response := ⟨status, [], ""⟩

def withHeaders (response : Response) (headers : Headers) : Response :=
  { response with headers := response.headers ++ headers }

def withoutBody (response : Response) : Response := { response with body := "" }

end Response

end Enrolment
