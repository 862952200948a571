import Enrolment.Proofs.Http.Answers
import Enrolment.Proofs.Limiter.Visits

set_option autoImplicit false

namespace Enrolment

namespace App

def withGates (admission : Admission Float) (apiKey : String) (app : App) : App :=
  { app with admission, apiKey }

section Gates

variable (admission : Admission Float) (apiKey : String) (app : App) (draw : Draw)
  (request : Request)

theorem serve_withGates (route : Route) :
    (withGates admission apiKey app).serve draw request route =
      moved (withGates admission apiKey) (app.serve draw request route) := by
  unfold serve
  split
  · cases route with
    | register =>
      simp only [handle, register]
      cases readClaims request with
      | error fault => rfl
      | ok claims =>
        simp only [withGates]
        cases (app.registrar.register draw claims).1 <;> rfl
    | activate token fingerprint =>
      simp only [handle, activate]
      split <;> rfl
    | health | checkWallet | list | healthcheck => rfl
  · rfl

theorem advance_withGates (handling : Handling) :
    (withGates admission apiKey app).advance draw handling =
      moved (withGates admission apiKey) (app.advance draw handling) := by
  cases handling with
  | activating | pinging | answered => rfl
  | findingPage | loadingPage =>
    simp only [advance, withGates]
    split <;> rfl

theorem deliver_withGates (response : Response) :
    (withGates admission apiKey app).deliver draw request response =
      moved (withGates admission apiKey) (app.deliver draw request response) := by
  unfold deliver
  cases Route.find? request.segments <;> rfl

end Gates

structure SameGates (before after : App) : Prop where
  admission : after.admission = before.admission
  apiKey : after.apiKey = before.apiKey

variable {app : App} {draw : Draw} {clock : Nat} {request : Request} {route : Route}

theorem SameGates.trans {before between after : App} (first : before.SameGates between)
    (second : between.SameGates after) : before.SameGates after :=
  ⟨second.admission.trans first.admission, second.apiKey.trans first.apiKey⟩

theorem sameGates_of_moved {α : Type} {result : α × App}
    (blind : result = moved (withGates app.admission app.apiKey) result) :
    app.SameGates result.2 := by
  constructor <;> rw [blind] <;> rfl

theorem sameGates_serve (app : App) (draw : Draw) (request : Request) (route : Route) :
    app.SameGates (app.serve draw request route).2 :=
  sameGates_of_moved (serve_withGates app.admission app.apiKey app draw request route)

theorem sameGates_deliver (app : App) (draw : Draw) (request : Request) (response : Response) :
    app.SameGates (app.deliver draw request response).2 :=
  sameGates_of_moved (deliver_withGates app.admission app.apiKey app draw request response)

theorem sameGates_run (draw : Draw) (steps : Nat) (state : Handling × App) :
    state.2.SameGates (run draw steps state).2 := by
  induction steps generalizing state with
  | zero => exact ⟨rfl, rfl⟩
  | succ steps ih =>
    have advanced := sameGates_of_moved
      (advance_withGates state.2.admission state.2.apiKey state.2 draw state.1)
    exact advanced.trans (ih _)

theorem sameGates_respond (app : App) (draw : Draw) (clock : Nat) (request : Request) :
    (app.receive draw clock request).2.SameGates (app.respond draw clock request).2 := by
  have ran := sameGates_run draw 4 (app.receive draw clock request)
  unfold respond
  generalize run draw 4 (app.receive draw clock request) = state at ran ⊢
  rcases state with ⟨handling, app⟩
  cases handling <;> exact ran.trans (app.sameGates_deliver draw request _)

theorem sameGates_passGates (app : App) (clock : Nat) (request : Request)
    {handler : App → Handling × App} (blind : ∀ app : App, app.SameGates (handler app).2) :
    (app.charged clock request).SameGates (app.passGates clock request handler).2 := by
  unfold passGates
  split
  · exact ⟨rfl, rfl⟩
  split
  · exact ⟨rfl, rfl⟩
  · exact blind _

theorem sameGates_receive_gated (app : App) (draw : Draw) (clock : Nat)
    (found : Route.find? request.segments = some route) (gated : route.isGated = true)
    (plain : request.method ≠ "OPTIONS") :
    (app.charged clock request).SameGates (app.receive draw clock request).2 := by
  rw [receive_gated found gated plain]
  exact app.sameGates_passGates clock request fun app => app.sameGates_serve draw request route

section Gated

variable (app draw clock) (found : Route.find? request.segments = some route)
  (gated : route.isGated = true) (plain : request.method ≠ "OPTIONS")
include found gated plain

theorem receive_throttled (refused : app.admits clock request = false) :
    app.receive draw clock request = (problem (.bare 429), app.turnedAway clock request) := by
  rw [receive_gated found gated plain, passGates, if_pos refused]

theorem receive_locked (admitted : app.admits clock request = true)
    (keyless : app.hasKey request = false) :
    app.receive draw clock request = (problem (.bare 401), app.charged clock request) := by
  rw [receive_gated found gated plain, passGates, if_neg (ne_false_of_eq_true admitted),
    if_pos keyless]

theorem receive_served (admitted : app.admits clock request = true)
    (hasKey : app.hasKey request = true) :
    app.receive draw clock request = (app.charged clock request).serve draw request route := by
  rw [receive_gated found gated plain, passGates, if_neg (ne_false_of_eq_true admitted),
    if_neg (ne_false_of_eq_true hasKey)]

end Gated

section Bypass

variable (app draw clock)

end Bypass

end App

end Enrolment
