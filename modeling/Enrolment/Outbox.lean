set_option autoImplicit false

namespace Enrolment

inductive Notification
  | activationLink (contact link fingerprint : String)
  | confirmation (contact : String)
  deriving Repr, DecidableEq

structure Outbox where
  pending : List Notification := []
  delivered : List Notification := []
  -- Whether notifications have to wait.
  held : Bool := false
  -- Whether notifications that go out get lost.
  failing : Bool := false
  -- Closing a `TaskTracker` lets waits for it end, and does not keep further tasks out.
  closed : Bool := false
  -- Whether none was pending at some time since the outbox was closed.
  emptied : Bool := false

namespace Outbox

def post (outbox : Outbox) (notification : Notification) : Outbox :=
  { outbox with pending := outbox.pending ++ [notification] }

-- Notifications are the tasks of a `TaskTracker`. Whoever waits for it is let go by any moment at
-- which it is closed and has no task, even if nobody looks before the next task comes.
def noticed (outbox : Outbox) : Outbox :=
  { outbox with emptied := outbox.emptied || (outbox.closed && outbox.pending.isEmpty) }

def finish (outbox : Outbox) (position : Nat) (isLost : Bool) : Outbox :=
  let sent := if isLost then [] else outbox.pending[position]?.toList
  noticed { outbox with
    pending := outbox.pending.eraseIdx position
    delivered := outbox.delivered ++ sent }

def settle (outbox : Outbox) : Outbox :=
  if outbox.held then outbox
  else outbox.pending.foldl (fun outbox _ => outbox.finish 0 outbox.failing) outbox

def close (outbox : Outbox) : Outbox := noticed { outbox with closed := true, emptied := false }

def reopen (outbox : Outbox) : Outbox := { outbox with closed := false, emptied := false }

end Outbox

end Enrolment
