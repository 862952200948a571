import Enrolment.Proofs.Activation.Steps
import Enrolment.Proofs.Http.Statements

set_option autoImplicit false

namespace Enrolment

namespace App

def faults : List Nat := [400, 401, 404, 409, 412, 413, 415, 422, 500]

inductive Answers : Response → Prop
  | health : Answers healthResponse
  | healthcheck (reachable : Bool) (pending : Nat) : Answers (healthcheckResponse reachable pending)
  | registered (app : App) (registration : Registration) :
      Answers (.json 202 (app.registrationJson registration))
  | activated (participant : Participant) : Answers (.json 201 participant.toJson)
  | presence (isPresent : Bool) : Answers (presenceResponse isPresent)
  | listed (format : ListFormat) (participants : List Participant) :
      Answers (Participant.listResponse format participants)
  | notText (request : Request) : Answers (notText request)
  | fault {status : Nat} (detail : Option String) (known : status ∈ faults) :
      Answers (.problem (.of status detail))

theorem Answers.status_mem {response : Response} (answers : Answers response) :
    response.status ∈ [200, 201, 202, 503] ++ faults := by
  cases answers with
  | health | registered | activated | notText =>
    simp [healthResponse, App.notText, Response.json, Response.plainText, faults]
  | healthcheck reachable pending =>
    cases reachable <;> simp [healthcheckResponse, Response.json]
  | presence isPresent =>
    cases isPresent <;> simp [presenceResponse, Response.json, faults]
  | listed format participants =>
    cases format <;> simp [Participant.listResponse, Response.json]
  | fault detail known => exact List.mem_append_right _ known

end App

def Handling.Leads : Handling → Prop
  | activating activation => activation.result? = none
  | findingPage _ | loadingPage _ _ | pinging => True
  | answered response => App.Answers response

-- The steps that are left until the answer, at most.
def Handling.remaining : Handling → Nat
  | activating activation => activation.remaining
  | findingPage _ => 2
  | loadingPage _ _ | pinging => 1
  | answered _ => 0

namespace App

variable {app : App} {draw : Draw} {clock : Nat} {request : Request}

theorem answers_readClaims {problem : Problem} (refused : readClaims request = .error problem) :
    Answers (.problem problem) := by
  unfold readClaims at refused
  split at refused
  · cases refused
    exact .fault _ (by decide)
  split at refused
  · cases refused
    exact .fault _ (by decide)
  split at refused
  · cases refused
  next fault _ =>
    cases refused
    cases fault <;> exact .fault _ (by decide)

theorem answers_storeError (error : StoreError) :
    Answers (.problem (.ofRegistrationError (.ofStoreError error))) := by
  cases error with
  | duplicate => exact .fault _ (by decide)
  | outOfRange | backend => exact .fault none (by decide)

theorem answers_listProblem (error : StoreError) : Answers (.problem (listProblem error)) := by
  cases error with
  | outOfRange => exact .fault _ (by decide)
  | duplicate | backend => exact .fault none (by decide)

theorem leads_activate (app : App) (draw : Draw) (request : Request)
    (token fingerprint : List Char) : (app.activate draw request token fingerprint).1.Leads := by
  unfold activate
  split
  next token fingerprint _ _ =>
    simp only [Registrar.beginActivation]
    split
    · rfl
    next error refused =>
      obtain rfl := Registrar.eq_unauthorized_of_authorize refused
      exact .fault none (by decide)
  · exact .notText request

theorem leads_list (app : App) (request : Request) (first second : List Char) :
    (app.list request first second).Leads := by
  unfold list
  split
  · split
    · exact .fault _ (by decide)
    split
    · exact .fault _ (by decide)
    split
    · exact .fault _ (by decide)
    · trivial
  · exact .fault _ (by decide)

theorem leads_handle (app : App) (draw : Draw) (request : Request) (route : Route) :
    (app.handle draw request route).1.Leads := by
  cases route with
  | health => exact .health
  | register =>
    simp only [handle, register, Registrar.register]
    split
    next refused => exact answers_readClaims refused
    next claims _ =>
      cases claims.violations with
      | nil =>
        cases app.registrar.tokens.issue draw.entropy claims draw.now with
        | ok token => exact .registered _ _
        | error fault => exact .fault _ (by decide)
      | cons => exact .fault _ (by decide)
  | activate token fingerprint => exact app.leads_activate draw request token fingerprint
  | checkWallet address =>
    simp only [handle, checkWallet]
    split
    · exact .presence _
    · exact .notText request
  | list first second => exact app.leads_list request first second
  | healthcheck => trivial

theorem leads_advance (app : App) (draw : Draw) {handling : Handling} (leads : handling.Leads) :
    (app.advance draw handling).1.Leads := by
  cases handling with
  | activating activation =>
    simp only [advance]
    cases activation with
    | lookingUpAddress claims =>
      simp only [Registrar.advance]
      split
      · exact .fault _ (by decide)
      · rfl
      · exact answers_storeError _
    | lookingUpSponsor claims =>
      simp only [Registrar.advance]
      split
      · rfl
      · exact .fault _ (by decide)
      · exact answers_storeError _
    | inserting participant =>
      simp only [Registrar.advance]
      split
      · rfl
      · exact answers_storeError _
    | inserted participant => exact .activated participant
    | finished result => cases leads
  | findingPage query =>
    simp only [advance]
    split
    · trivial
    · exact answers_listProblem _
  | loadingPage format page =>
    simp only [advance]
    split
    · exact .listed _ _
    · exact answers_listProblem _
  | pinging => exact .healthcheck _ _
  | answered response => exact leads

theorem remaining_ofActivation (activation : Registrar.Activation) :
    (ofActivation activation).remaining ≤ activation.remaining := by
  cases activation with
  | finished result => cases result <;> exact Nat.le_refl 0
  | lookingUpAddress | lookingUpSponsor | inserting | inserted => exact Nat.le_refl _

theorem remaining_advance (app : App) (draw : Draw) (handling : Handling) :
    (app.advance draw handling).1.remaining ≤ handling.remaining - 1 := by
  cases handling with
  | activating activation =>
    exact Nat.le_trans (remaining_ofActivation _)
      (app.registrar.remaining_advance draw activation)
  | findingPage query =>
    simp only [advance]
    split <;> simp [problem, Handling.remaining]
  | loadingPage format page =>
    simp only [advance]
    split <;> simp [problem, Handling.remaining]
  | pinging | answered => exact Nat.le_refl 0

theorem remaining_handle (app : App) (draw : Draw) (request : Request) (route : Route) :
    (app.handle draw request route).1.remaining ≤ 4 := by
  cases route with
  | health | healthcheck => simp [handle, Handling.remaining]
  | register =>
    simp only [handle, register]
    split
    · simp [problem, Handling.remaining]
    · split <;> simp [problem, Handling.remaining]
  | activate token fingerprint =>
    simp only [handle, activate]
    split
    next token fingerprint _ _ =>
      refine Nat.le_trans (remaining_ofActivation _) ?_
      rcases app.registrar.beginActivation_cases draw.now token fingerprint with
        ⟨claims, -, begun⟩ | ⟨error, begun⟩ <;>
          simp [begun, Registrar.conclude, Registrar.Activation.remaining]
    · simp [Handling.remaining]
  | checkWallet address =>
    simp only [handle, checkWallet]
    split <;> simp [Handling.remaining]
  | list first second =>
    simp only [handle, list]
    repeat' split
    all_goals simp [problem, Handling.remaining]

theorem answers_run {steps : Nat} {state : Handling × App} (leads : state.1.Leads)
    (enough : state.1.remaining ≤ steps) :
    ∃ response left, Answers response ∧ run draw steps state = (.answered response, left) := by
  induction steps generalizing state with
  | zero =>
    -- Only an answer has no steps left.
    rcases state with ⟨handling, app⟩
    cases handling with
    | answered response => exact ⟨response, app, leads, rfl⟩
    | activating activation =>
      cases activation with
      | finished => cases leads
      | lookingUpAddress | lookingUpSponsor | inserting | inserted => cases enough
    | findingPage | loadingPage | pinging => cases enough
  | succ steps ih =>
    have fewer := state.2.remaining_advance draw state.1
    exact ih (state.2.leads_advance draw leads) (by omega)

@[simp] theorem status_deliver (app : App) (draw : Draw) (request : Request) (response : Response) :
    (app.deliver draw request response).1.status = response.status := by
  unfold deliver
  split
  · simp only [finish, Response.withHeaders]
    split <;> rfl
  · rfl

theorem registrar_deliver (app : App) (draw : Draw) (request : Request) (response : Response) :
    ∃ tally, (app.deliver draw request response).2.registrar = { app.registrar with tally } := by
  unfold deliver
  split <;> exact ⟨_, rfl⟩

theorem run_answered (draw : Draw) (steps : Nat) (response : Response) (app : App) :
    run draw steps (.answered response, app) = (.answered response, app) := by
  induction steps with
  | zero => rfl
  | succ steps ih => exact ih

theorem run_add (draw : Draw) (steps more : Nat) (state : Handling × App) :
    run draw (steps + more) state = run draw more (run draw steps state) := by
  induction steps generalizing state with
  | zero => rw [Nat.zero_add, run]
  | succ steps ih =>
    rw [Nat.succ_add]
    exact ih _

theorem stages_answered (draw : Draw) (steps : Nat) (response : Response) (app : App) :
    stages draw steps (.answered response, app) = List.replicate steps (.answered response) := by
  induction steps with
  | zero => rfl
  | succ steps ih => exact congrArg (List.cons _) ih

section Answered

variable {left : App} {response : Response}
  (answered : app.receive draw clock request = (.answered response, left))
include answered

theorem respond_answered : app.respond draw clock request = left.deliver draw request response := by
  unfold respond
  rw [answered, run_answered]

theorem statementsOf_answered : app.statementsOf draw clock request = [] := by
  unfold statementsOf
  rw [answered, stages_answered]
  rfl

end Answered

end App

end Enrolment
