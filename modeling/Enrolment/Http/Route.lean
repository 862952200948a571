import Enrolment.Text.Percent

set_option autoImplicit false

namespace Enrolment

inductive Route
  | health
  | register
  | activate (token fingerprint : List Char)
  | checkWallet (address : List Char)
  | list (first second : List Char)
  | healthcheck
  deriving Repr, DecidableEq

namespace Route

-- What matchit finds in the table of axum's router: a name goes before a parameter at its place,
-- and a parameter takes a segment as it is written, which is not empty at the end of a path.
def find? (segments : List (List Char)) : Option Route :=
  match segments with
  | [name] =>
    if name = "health".toList then some health
    else if name = "healthcheck".toList then some healthcheck
    else if name = "register".toList then some register
    else none
  | [name, address] =>
    if name = "check-wallet".toList && !address.isEmpty then some (checkWallet address) else none
  | [first, second, last] =>
    if first = "activate".toList && !last.isEmpty then some (activate second last)
    else if last = "list".toList then some (list first second)
    else none
  | _ => none

def template : Route → String
  | health => "/health"
  | register => "/register"
  | activate _ _ => "/activate/:token/:fingerprint"
  | checkWallet _ => "/check-wallet/:address"
  | list _ _ => "/:path1/:path2/list"
  | healthcheck => "/healthcheck"

def isPost : Route → Bool
  | register | activate _ _ => true
  | _ => false

def allowed (route : Route) : String := if route.isPost then "POST" else "GET,HEAD"

def allows (route : Route) (method : String) : Bool :=
  if route.isPost then method == "POST" else method == "GET" || method == "HEAD"

def isGated (route : Route) : Bool := route ≠ healthcheck

def parameter? (raw : List Char) : Option String := Percent.decodeText? (String.ofList raw)

end Route

end Enrolment
