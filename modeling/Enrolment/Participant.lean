import Enrolment.Claims
import Enrolment.Instant
import Enrolment.Uuid

set_option autoImplicit false

namespace Enrolment

structure Participant where
  address : String
  email : String
  uuid : Uuid
  activatedAt : Instant
  sponsor : String
  deriving DecidableEq

namespace Participant

def ofClaims (claims : Claims) (uuid : Uuid) (activatedAt : Instant) : Participant :=
  ⟨claims.address, claims.email, uuid, activatedAt, claims.sponsor⟩

def blank : Participant := ⟨"", "", Uuid.ofNat 0, Instant.ofMillis 0, ""⟩

def instantOfMillis? (millis : Int) : Option Instant :=
  if -8334601228800000 ≤ millis ∧ millis ≤ 8210266876799999 then some (Instant.ofMillis millis)
  else none

def fields : List (Json.Field Participant) :=
  [.required "address" Json.text fun value participant => { participant with address := value },
   .required "email" Json.text fun value participant => { participant with email := value },
   .required "uuid" (Json.refined Json.text Uuid.ofText?) fun value participant =>
     { participant with uuid := value },
   .required "timestamp" (Json.refined Json.integer instantOfMillis?) fun value participant =>
     { participant with activatedAt := value },
   .required "sponsor" Json.text fun value participant => { participant with sponsor := value }]

def reader : Json.Reader Participant := Json.record fields blank

def toJson (participant : Participant) : String :=
  Json.object [("address", Json.quote participant.address), ("email", Json.quote participant.email),
    ("uuid", Json.quote participant.uuid.text),
    ("timestamp", Json.integerText participant.activatedAt.millis),
    ("sponsor", Json.quote participant.sponsor)]

end Participant

end Enrolment
