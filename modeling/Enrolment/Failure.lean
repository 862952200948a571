import Enrolment.Violation

set_option autoImplicit false

namespace Enrolment

mutual

inductive Cause
  | text (message : String)
  | violations (violations : List Violation)
  | registration (error : RegistrationError)
  | store (error : StoreError)

inductive StoreError
  | duplicate (address : String)
  -- The page does not exist among so many participants.
  | outOfRange (offset : Nat) (limit : Option Nat) (size : Nat)
  | backend (cause : Cause)

inductive RegistrationError
  | invalid (violations : List Violation)
  | unauthorized
  | conflict (address : String)
  | unknownSponsor (sponsor : String)
  | throttled
  | unavailable (cause : Cause)

end

def limitText : Option Nat → String
  | some limit => s!"Some({limit})"
  | none => "None"

def RegistrationError.message : RegistrationError → String
  | invalid violations => "invalid claims: " ++ Violation.lines violations
  | unauthorized => "unauthorized"
  | conflict address => s!"identity {address} is already a participant"
  | unknownSponsor sponsor => s!"referrer {sponsor} is not a participant"
  | throttled => "too many requests"
  | unavailable _ => "service unavailable"

mutual

def Cause.message : Cause → String
  | .text message => message
  | .violations violations => Violation.lines violations
  | .registration error => error.message
  | .store error => StoreError.message error

def StoreError.message : StoreError → String
  | .duplicate address => s!"participant {address} already exists"
  | .outOfRange offset limit size =>
    s!"offset {offset} and limit {limitText limit} are out of range for {size} participants"
  | .backend cause => Cause.message cause

end

namespace RegistrationError

def ofStoreError : StoreError → RegistrationError
  | .duplicate address => conflict address
  | error => unavailable (.store error)

def source? : RegistrationError → Option Cause
  | unavailable cause => some cause
  | _ => none

end RegistrationError

end Enrolment
