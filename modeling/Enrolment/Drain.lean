import Enrolment.Outbox

set_option autoImplicit false

namespace Enrolment

inductive Drain
  -- The server still finishes its requests, which may ask for notifications.
  | serving
  -- Notifications are waited for since a time.
  | waiting (since : Nat)
  -- Nobody waits any more; either all notifications had ended, or it took them too long.
  | finished (drained : Bool)
  deriving Repr, DecidableEq

namespace Drain

def wait (timeout clock since : Nat) (outbox : Outbox) : Drain × Outbox :=
  if outbox.emptied then (finished true, outbox.reopen)
  else if since + timeout ≤ clock then (finished false, outbox.reopen)
  else (waiting since, outbox)

def poll (timeout clock : Nat) (served : Bool) (outbox : Outbox) : Drain → Drain × Outbox
  | serving => if served then wait timeout clock clock outbox.close else (serving, outbox)
  | waiting since => wait timeout clock since outbox
  | finished drained => (finished drained, outbox)

end Drain

end Enrolment
