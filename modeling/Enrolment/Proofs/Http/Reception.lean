import Enrolment.Http.App

set_option autoImplicit false

namespace Enrolment

namespace App

def admits (app : App) (clock : Nat) (request : Request) : Bool :=
  (app.admission.allow request.peer.text clock).1

-- The limiter has seen the request, whatever it decides.
def charged (app : App) (clock : Nat) (request : Request) : App :=
  { app with admission := (app.admission.allow request.peer.text clock).2 }

-- A request that the limiter turns away is counted.
def turnedAway (app : App) (clock : Nat) (request : Request) : App :=
  { app.charged clock request with registrar := app.registrar.counted .rejections }

def passGates (app : App) (clock : Nat) (request : Request) (handler : App → Handling × App) :
    Handling × App :=
  if app.admits clock request = false then
    (problem (.bare 429), app.turnedAway clock request)
  else if app.hasKey request = false then (problem (.bare 401), app.charged clock request)
  else handler (app.charged clock request)

def serve (app : App) (draw : Draw) (request : Request) (route : Route) : Handling × App :=
  if route.allows request.method then app.handle draw request route
  else (.answered (.empty 405), app)

variable {app : App} {draw : Draw} {clock : Nat} {request : Request} {route : Route}

theorem receive_unmatched (unmatched : Route.find? request.segments = none) :
    app.receive draw clock request = (problem .notFound, app) := by
  simp only [receive, unmatched]

theorem receive_open (found : Route.find? request.segments = some route)
    (ungated : route.isGated = false) :
    app.receive draw clock request = app.serve draw request route := by
  simp only [receive, found, enter, ungated]
  rfl

theorem receive_preflight (found : Route.find? request.segments = some route)
    (gated : route.isGated = true) (preflight : request.method = "OPTIONS") :
    app.receive draw clock request = (.answered (.empty 200), app) := by
  simp only [receive, found, enter, gated, preflight]
  rfl

theorem letIn_admitted (admitted : app.admits clock request = true) :
    app.letIn clock request = (true, app.charged clock request) := by
  unfold admits at admitted
  simp only [letIn, admitted]
  rfl

theorem letIn_refused (refused : app.admits clock request = false) :
    app.letIn clock request = (false, app.turnedAway clock request) := by
  unfold admits at refused
  simp only [letIn, refused]
  rfl

theorem receive_gated (found : Route.find? request.segments = some route)
    (gated : route.isGated = true) (plain : request.method ≠ "OPTIONS") :
    app.receive draw clock request =
      app.passGates clock request fun app => app.serve draw request route := by
  simp only [receive, found, enter, gated, plain, passGates]
  cases admitted : app.admits clock request with
  | false =>
    rw [letIn_refused admitted]
    rfl
  | true =>
    have keys : (app.charged clock request).hasKey request = app.hasKey request := rfl
    simp only [letIn_admitted admitted, keys]
    cases app.hasKey request <;> rfl

end App

def Registrar.Activation.unfinished? : Registrar.Activation → Option Registrar.Activation
  | .finished _ => none
  | activation => some activation

def Handling.activation? : Handling → Option Registrar.Activation
  | .activating activation => some activation
  | _ => none

theorem App.activation?_ofActivation (activation : Registrar.Activation) :
    (ofActivation activation).activation? = activation.unfinished? := by
  cases activation with
  | finished result => cases result <;> rfl
  | lookingUpAddress | lookingUpSponsor | inserting | inserted => rfl

-- What a request that is received puts under way, and leaves of the registrar.
inductive Registrar.Takes (registrar : Registrar) (draw : Draw) :
    Option Registrar.Activation → Registrar → Prop
  | nothing : Takes registrar draw none registrar
  | rejection : Takes registrar draw none (registrar.counted .rejections)
  | registration (claims : Claims) : Takes registrar draw none (registrar.register draw claims).2
  | activation (token fingerprint : String) :
    Takes registrar draw (registrar.beginActivation draw.now token fingerprint).1.unfinished?
      (registrar.beginActivation draw.now token fingerprint).2

namespace App

variable (app : App) (draw : Draw) (request : Request)

theorem activation?_list (first second : List Char) :
    (app.list request first second).activation? = none := by
  unfold list
  repeat' split
  all_goals rfl

theorem serve_takes (route : Route) :
    app.registrar.Takes draw (app.serve draw request route).1.activation?
      (app.serve draw request route).2.registrar := by
  unfold serve
  split
  · cases route with
    | health | healthcheck => exact .nothing
    | checkWallet address =>
      simp only [handle, checkWallet]
      split <;> exact .nothing
    | list first second =>
      rw [handle, app.activation?_list]
      exact .nothing
    | register =>
      simp only [handle, register]
      cases readClaims request with
      | error fault => exact .nothing
      | ok claims =>
        dsimp only
        split <;> exact .registration claims
    | activate token fingerprint =>
      simp only [handle, activate]
      split
      · rw [activation?_ofActivation]
        exact .activation _ _
      · exact .nothing
  · exact .nothing

theorem receive_takes (clock : Nat) :
    app.registrar.Takes draw (app.receive draw clock request).1.activation?
      (app.receive draw clock request).2.registrar := by
  cases found : Route.find? request.segments with
  | none =>
    rw [receive_unmatched found]
    exact .nothing
  | some route =>
    cases gated : route.isGated with
    | false =>
      rw [receive_open found gated]
      exact app.serve_takes draw request route
    | true =>
      by_cases preflight : request.method = "OPTIONS"
      · rw [receive_preflight found gated preflight]
        exact .nothing
      rw [receive_gated found gated preflight, passGates]
      split
      · exact .rejection
      split
      · exact .nothing
      · exact (app.charged clock request).serve_takes draw request route

end App

end Enrolment
