import Enrolment.Proofs.Http.Changes

set_option autoImplicit false

namespace Enrolment

def Handling.statement? : Handling → Option Statement
  | activating (.lookingUpAddress _) | activating (.lookingUpSponsor _) => some .exist
  | activating (.inserting _) => some .persist
  | activating (.inserted _) | activating (.finished _) => none
  | findingPage _ => some .count
  | loadingPage _ _ => some .load
  | pinging => some .ping
  | answered _ => none

namespace App

def withStore (store : Store) (app : App) : App :=
  { app with registrar := { app.registrar with store } }

def statementsOf (app : App) (draw : Draw) (clock : Nat) (request : Request) : List Statement :=
  (stages draw 4 (app.receive draw clock request)).filterMap Handling.statement?

variable (store : Store) (app : App) (draw : Draw) (clock : Nat) (request : Request)

theorem behindGates_withStore : BehindGates (withStore store) where
  admits _ _ _ := rfl
  hasKey _ _ := rfl
  charged _ _ _ := rfl
  turnedAway _ _ _ := rfl

theorem register_withStore :
    (withStore store app).register draw request = moved (withStore store) (app.register draw request) := by
  unfold register
  cases readClaims request with
  | error fault => rfl
  | ok claims =>
    simp only [withStore, Registrar.register]
    cases claims.violations with
    | nil => cases app.registrar.tokens.issue draw.entropy claims draw.now <;> rfl
    | cons => rfl

theorem activate_withStore (token fingerprint : List Char) :
    (withStore store app).activate draw request token fingerprint =
      moved (withStore store) (app.activate draw request token fingerprint) := by
  unfold activate
  split
  next token fingerprint _ _ =>
    have authorized : (withStore store app).registrar.authorize draw.now token fingerprint =
        app.registrar.authorize draw.now token fingerprint := rfl
    simp only [Registrar.beginActivation, authorized]
    cases app.registrar.authorize draw.now token fingerprint <;> rfl
  · rfl

theorem serve_withStore (route : Route) :
    (withStore store app).serve draw request route =
      moved (withStore store) (app.serve draw request route) := by
  unfold serve
  split
  · cases route with
    | register => exact register_withStore store app draw request
    | activate token fingerprint => exact activate_withStore store app draw request token fingerprint
    | health | checkWallet | list | healthcheck => rfl
  · rfl

theorem receive_withStore :
    (withStore store app).receive draw clock request =
      moved (withStore store) (app.receive draw clock request) :=
  (behindGates_withStore store).receive_moved app clock fun app route _ =>
    serve_withStore store app draw request route

theorem advance_withStore {handling : Handling} (quiet : handling.statement? = none) :
    (withStore store app).advance draw handling =
      moved (withStore store) (app.advance draw handling) := by
  cases handling with
  | activating activation =>
    cases activation with
    | lookingUpAddress | lookingUpSponsor | inserting => cases quiet
    | inserted | finished => rfl
  | findingPage | loadingPage | pinging => cases quiet
  | answered => rfl

variable {app draw clock request} (quiet : app.statementsOf draw clock request = [])
include quiet

theorem respond_withStore :
    (withStore store app).respond draw clock request =
      moved (withStore store) (app.respond draw clock request) := by
  refine respond_moved (receive_withStore store app draw clock request) ?_ ?_
  case refine_1 =>
    intro app handling visited
    exact advance_withStore store app draw (List.filterMap_eq_nil_iff.mp quiet handling visited)
  case refine_2 =>
    intro app response
    unfold deliver
    cases Route.find? request.segments <;> rfl

end App

end Enrolment
