import Enrolment.Claims
import Enrolment.Email.Mailbox

set_option autoImplicit false

namespace Enrolment

inductive Violation
  | missingAddress
  | invalidEmail
  | missingSponsor
  deriving Repr, DecidableEq

namespace Violation

def field : Violation → String
  | missingAddress => "address"
  | invalidEmail => "email"
  | missingSponsor => "sponsor"

def code : Violation → String
  | missingAddress | missingSponsor => "length"
  | invalidEmail => "email"

def message : Violation → String
  | missingAddress => "address is required"
  | invalidEmail => "email must be a valid address"
  | missingSponsor => "sponsor is required"

def line (violation : Violation) : String := violation.field ++ ": " ++ violation.message

def lines (violations : List Violation) : String := "\n".intercalate (violations.map line)

end Violation

namespace Claims

def violations (claims : Claims) : List Violation :=
  (if claims.address = "" then [.missingAddress] else []) ++
  (if Mailbox.isValid claims.email then [] else [.invalidEmail]) ++
  (if claims.sponsor = "" then [.missingSponsor] else [])

end Claims

end Enrolment
