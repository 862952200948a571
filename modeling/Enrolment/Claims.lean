import Enrolment.Json.Record
import Enrolment.Json.Writer

set_option autoImplicit false

namespace Enrolment

structure Claims where
  address : String := ""
  email : String := ""
  sponsor : String := ""
  deriving Repr, DecidableEq

namespace Claims

def isComplete (claims : Claims) : Bool :=
  claims.address ≠ "" && claims.email ≠ "" && claims.sponsor ≠ ""

def fields : List (Json.Field Claims) :=
  [.defaulted "address" Json.text fun value claims => { claims with address := value },
   .defaulted "email" Json.text fun value claims => { claims with email := value },
   .defaulted "sponsor" Json.text fun value claims => { claims with sponsor := value }]

def reader : Json.Reader Claims := Json.record fields {}

def toJson (claims : Claims) : String :=
  Json.object [("address", Json.quote claims.address), ("email", Json.quote claims.email),
    ("sponsor", Json.quote claims.sponsor)]

end Claims

end Enrolment
