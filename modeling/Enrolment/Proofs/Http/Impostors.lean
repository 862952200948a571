import Enrolment.Proofs.Http.Sessions

set_option autoImplicit false

namespace Enrolment

namespace Registrar

inductive Distrusts (registrar : Registrar) (now : Instant) (token fingerprint : String) : Prop
  | misshapen (shape : Token.isWellFormed token = false)
  | mismatched (differs : Token.fingerprint token ≠ fingerprint)
  | rejected (rejection : Token.Rejection)
      (refused : registrar.tokens.extract token now = .error rejection)

theorem distrusts_iff {registrar : Registrar} {now : Instant} {token fingerprint : String} :
    registrar.Distrusts now token fingerprint ↔
      registrar.authorize now token fingerprint = .error .unauthorized := by
  constructor
  · intro distrusts
    cases distrusts with
    | misshapen shape => simp [authorize, isPresentable, shape]
    | mismatched differs => simp [authorize, isPresentable, differs]
    | rejected rejection refused => simp [authorize, refused]
  · intro unauthorized
    unfold authorize at unauthorized
    split at unauthorized
    next presentable =>
      split at unauthorized
      next => cases unauthorized
      next rejection refused => exact .rejected rejection refused
    next unpresentable =>
      simp only [isPresentable, Bool.and_eq_true, beq_iff_eq, not_and] at unpresentable
      cases shape : Token.isWellFormed token with
      | false => exact .misshapen shape
      | true => exact .mismatched (unpresentable shape)

end Registrar

namespace App

structure Activates (app : App) (call : Call) (token fingerprint : String) : Prop where
  posts : call.request.method = "POST"
  path : ∃ first second, Route.find? call.request.segments = some (.activate first second) ∧
    Route.parameter? first = some token ∧ Route.parameter? second = some fingerprint
  admitted : app.admits call.clock call.request = true
  hasKey : app.hasKey call.request = true

structure Rebuffs (app : App) (call : Call) (answer : Response) : Prop where
  answered : (app.respondTo call).1 =
    answer.withHeaders [("request_id", requestId call.draw call.request)]
  quiet : app.statementsOf call.draw call.clock call.request = []
  unread (store : Store) : (withStore store app).respondTo call =
    moved (withStore store) (app.respondTo call)
  spared : ∃ tally, (app.respondTo call).2.registrar = { app.registrar with tally }

def rebuff : Response :=
  (Response.problem ⟨401, none, some "Unauthorized"⟩).withHeaders
    [("access-control-allow-origin", "*"), ("vary", "origin"),
      ("vary", "access-control-request-method"), ("vary", "access-control-request-headers")]

theorem finish_posted {request : Request} (posts : request.method = "POST")
    (first second : List Char) :
    finish request (.activate first second) (.problem (.bare 401)) = rebuff := by
  simp only [finish, originHeaders, posts]
  rfl

variable {app : App} {call : Call} {token fingerprint : String}

theorem Activates.receive (activates : app.Activates call token fingerprint) :
    app.receive call.draw call.clock call.request =
      (ofActivation (app.registrar.beginActivation call.draw.now token fingerprint).1,
        { app.charged call.clock call.request with
          registrar := (app.registrar.beginActivation call.draw.now token fingerprint).2 }) := by
  obtain ⟨posts, ⟨first, second, found, presented, matching⟩, admitted, hasKey⟩ := activates
  have plain : call.request.method ≠ "OPTIONS" := by
    rw [posts]
    decide
  have allowed : (Route.activate first second).allows call.request.method = true := by
    rw [posts]
    rfl
  rw [app.receive_served call.draw call.clock found rfl plain admitted hasKey, serve,
    if_pos allowed, handle, activate, presented, matching]
  rfl

theorem Activates.rebuffed (activates : app.Activates call token fingerprint)
    (distrusted : app.registrar.Distrusts call.draw.now token fingerprint) :
    app.Rebuffs call rebuff := by
  have received := activates.receive
  rw [Registrar.beginActivation, Registrar.distrusts_iff.mp distrusted] at received
  obtain ⟨first, second, found, -, -⟩ := activates.path
  constructor
  case answered =>
    rw [respondTo, respond_answered received]
    simp only [deliver, found]
    rw [← finish_posted activates.posts first second]
    rfl
  case quiet => exact statementsOf_answered received
  case unread =>
    intro store
    exact respond_withStore store (statementsOf_answered received)
  case spared =>
    rw [respondTo, respond_answered received]
    simp only [deliver, found]
    exact ⟨_, rfl⟩

theorem Activates.distrusted (activates : app.Activates call token fingerprint)
    (quiet : app.statementsOf call.draw call.clock call.request = []) :
    app.registrar.Distrusts call.draw.now token fingerprint := by
  cases authorized : app.registrar.authorize call.draw.now token fingerprint with
  | error error =>
    obtain rfl := Registrar.eq_unauthorized_of_authorize authorized
    exact Registrar.distrusts_iff.mpr authorized
  | ok claims =>
    -- Whoever is trusted is looked up.
    rw [statementsOf, activates.receive, Registrar.beginActivation, authorized] at quiet
    cases quiet

theorem impostors_look_alike :
    ∃ answer : Response, answer.status = 401 ∧
      answer.body = Problem.body [⟨401, none, some "Unauthorized"⟩] ∧
      ∀ (app : App) (call : Call) (token fingerprint : String),
        app.Activates call token fingerprint →
          (app.registrar.Distrusts call.draw.now token fingerprint → app.Rebuffs call answer) ∧
          (app.statementsOf call.draw call.clock call.request = [] →
            app.registrar.Distrusts call.draw.now token fingerprint) := by
  refine ⟨rebuff, rfl, rfl, ?_⟩
  intro app call token fingerprint activates
  exact ⟨activates.rebuffed, activates.distrusted⟩

def activation (target : String) : Call where
  draw := dawn
  clock := 0
  request := { method := "POST", target, headers := [("x-api-key", "key")] }

theorem activates_tokenless : lodge.Activates (activation "/activate/x/y") "x" "y" where
  posts := rfl
  path := ⟨['x'], ['y'], by decide, by decide +kernel, by decide +kernel⟩
  admitted := by decide +kernel
  hasKey := by decide

theorem activates_forged :
    lodge.Activates (activation "/activate/e30.e30./y") "e30.e30." "y" where
  posts := rfl
  path := ⟨"e30.e30.".toList, ['y'], by decide, by decide +kernel, by decide +kernel⟩
  admitted := by decide +kernel
  hasKey := by decide

theorem impostors_look_alike_forged :
    ∃ answer : Response, answer.status = 401 ∧
      lodge.Rebuffs (activation "/activate/x/y") answer ∧
      lodge.Rebuffs (activation "/activate/e30.e30./y") answer := by
  obtain ⟨answer, status, -, alike⟩ := impostors_look_alike
  have misshapen : Token.isWellFormed "x" = false := by decide
  have refused : lodge.registrar.tokens.extract "e30.e30." dawn.now = .error .malformedHeader := by
    decide +kernel
  refine ⟨answer, status, ?_, ?_⟩
  · exact (alike _ _ _ _ activates_tokenless).1 (.misshapen misshapen)
  · exact (alike _ _ _ _ activates_forged).1 (.rejected .malformedHeader refused)

end App

end Enrolment
