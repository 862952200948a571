import Enrolment.Http.Message

set_option autoImplicit false

namespace Enrolment

inductive Panic
  | text (message : String)
  | other
  deriving Repr, DecidableEq

namespace Panic

def message : Panic → String
  | text message => message
  | other => "Unknown panic message"

def response (_ : Panic) : Response := .problem .internal

end Panic

end Enrolment
