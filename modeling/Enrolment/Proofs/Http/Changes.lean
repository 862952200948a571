import Enrolment.Proofs.Http.Reception

set_option autoImplicit false

namespace Enrolment.App

def moved {α : Type} (change : App → App) (state : α × App) : α × App := (state.1, change state.2)

def stages (draw : Draw) : Nat → Handling × App → List Handling
  | 0, _ => []
  | steps + 1, (handling, app) => handling :: stages draw steps (app.advance draw handling)

structure BehindGates (change : App → App) : Prop where
  admits (app : App) (clock : Nat) (request : Request) :
    (change app).admits clock request = app.admits clock request
  hasKey (app : App) (request : Request) : (change app).hasKey request = app.hasKey request
  charged (app : App) (clock : Nat) (request : Request) :
    (change app).charged clock request = change (app.charged clock request)
  turnedAway (app : App) (clock : Nat) (request : Request) :
    (change app).turnedAway clock request = change (app.turnedAway clock request)

variable {change : App → App} {draw : Draw} {request : Request}

theorem BehindGates.receive_moved (behind : BehindGates change) (app : App) (clock : Nat)
    (blind : ∀ app route, Route.find? request.segments = some route →
      (change app).serve draw request route = moved change (app.serve draw request route)) :
    (change app).receive draw clock request = moved change (app.receive draw clock request) := by
  cases found : Route.find? request.segments with
  | none =>
    rw [receive_unmatched found, receive_unmatched found]
    rfl
  | some route =>
    cases gated : route.isGated with
    | false => rw [receive_open found gated, receive_open found gated, blind app route found]
    | true =>
      by_cases preflight : request.method = "OPTIONS"
      · rw [receive_preflight found gated preflight, receive_preflight found gated preflight]
        rfl
      rw [receive_gated found gated preflight, receive_gated found gated preflight]
      simp only [passGates, behind.admits, behind.hasKey, behind.charged, behind.turnedAway]
      split
      · rfl
      split
      · rfl
      · exact blind _ route found

theorem run_moved {steps : Nat} {state : Handling × App}
    (blind : ∀ app, ∀ handling ∈ stages draw steps state,
      (change app).advance draw handling = moved change (app.advance draw handling)) :
    run draw steps (moved change state) = moved change (run draw steps state) := by
  induction steps generalizing state with
  | zero => rfl
  | succ steps ih =>
    simp only [stages, List.forall_mem_cons] at blind
    rw [run, moved, (blind state.2).1]
    exact ih fun app => (blind app).2

theorem respond_moved {app : App} {clock : Nat}
    (received : (change app).receive draw clock request =
      moved change (app.receive draw clock request))
    (advanced : ∀ other, ∀ handling ∈ stages draw 4 (app.receive draw clock request),
      (change other).advance draw handling = moved change (other.advance draw handling))
    (delivered : ∀ other response, (change other).deliver draw request response =
      moved change (other.deliver draw request response)) :
    (change app).respond draw clock request = moved change (app.respond draw clock request) := by
  unfold respond
  rw [received, run_moved advanced]
  rcases run draw 4 (app.receive draw clock request) with ⟨handling, app⟩
  cases handling <;> exact delivered app _

end Enrolment.App
