import Enrolment.Http.App
import Enrolment.Json.Value

set_option autoImplicit false

namespace Enrolment

inductive Event
  | migrated (applied : Nat)
  | warmed (participants : Nat)
  | activated (address sponsor : String)
  -- A notification was not taken.
  | lost (notification : Notification)
  | gaveUp (pending : Nat)
  | storeUnreachable
  | crashed (part reason : String)
  deriving Repr, DecidableEq

namespace Event

def level : Event → String
  | migrated _ | warmed _ | activated .. => "INFO"
  | gaveUp _ | storeUnreachable => "WARN"
  | lost _ | crashed .. => "ERROR"

def message : Event → String
  | migrated _ => "migrations applied"
  | warmed _ => "presence cache warmed"
  | activated .. => "activated participant"
  | lost (.activationLink ..) => "failed to send activation link"
  | lost (.confirmation _) => "failed to send activation confirmation"
  | gaveUp _ => "gave up waiting for notifications"
  | storeUnreachable => "participant store unreachable"
  | crashed part reason => s!"{part} server crashed: {reason}"

def fields : Event → List (String × Json.Value)
  | migrated applied =>
    [("applied", .number (.natural applied)), ("category", .text "init"),
     ("subject", .text "database")]
  | warmed participants =>
    [("category", .text "init"), ("participants", .number (.natural participants)),
     ("subject", .text "presence_cache")]
  | activated address sponsor => [("identity", .text address), ("referrer", .text sponsor)]
  | gaveUp pending =>
    [("category", .text "notifications"), ("pending", .number (.natural pending)),
     ("subject", .text "shutdown")]
  | lost _ | storeUnreachable | crashed .. => []

def value (event : Event) : Json.Value :=
  let all := ("level", .text event.level) :: ("message", .text event.message) :: event.fields
  .object (all.mergeSort fun left right => left.1 ≤ right.1)

def ofStep (app : App) : Handling → List Event
  | .activating (.inserted participant) => [activated participant.address participant.sponsor]
  | .pinging => if app.registrar.store.ping.toBool then [] else [storeUnreachable]
  | _ => []

end Event

end Enrolment
