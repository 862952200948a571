import Enrolment.Proofs.Http.Failures
import Enrolment.Proofs.Json.Value

set_option autoImplicit false

namespace Enrolment

open Json (Value)

namespace Problem

structure IsTitled (problem : Problem) : Prop where
  title : problem.title = Status.reason? problem.status
  named : problem.title.isSome

theorem isTitled_of {status : Nat} (detail : Option String)
    (named : (Status.reason? status).isSome) : (of status detail).IsTitled := ⟨rfl, named⟩

mutual

theorem isTitled_ofRegistrationError :
    (error : RegistrationError) → (ofRegistrationError error).IsTitled
  | .invalid _ => isTitled_of _ (by decide)
  | .unauthorized => isTitled_of _ (by decide)
  | .conflict _ => isTitled_of _ (by decide)
  | .unknownSponsor _ => isTitled_of _ (by decide)
  | .throttled => isTitled_of _ (by decide)
  | .unavailable cause => isTitled_ofCause cause

theorem isTitled_ofCause : (cause : Cause) → (ofCause cause).IsTitled
  | .registration error => isTitled_ofRegistrationError error
  | .violations _ => isTitled_of _ (by decide)
  | .store _ => isTitled_of _ (by decide)
  | .text _ => isTitled_of _ (by decide)

end

def textOrNull (text : Option String) : Value := (text.map Value.text).getD .null

def value (problem : Problem) : Value :=
  .object [("status", .text (toString problem.status)), ("detail", textOrNull problem.detail),
    ("title", textOrNull problem.title)]

def bodyValue (problems : List Problem) : Value := .object [("errors", .list (problems.map value))]

theorem toJson_textOrNull (text : Option String) :
    (textOrNull text).toJson = Json.quoteOption text := by
  cases text <;> rfl

theorem toJson_value (problem : Problem) : problem.value.toJson = problem.toJson := by
  simp only [value, toJson, Value.toJson, Value.membersJson, toJson_textOrNull]

theorem toJson_bodyValue (problems : List Problem) :
    (bodyValue problems).toJson = body problems := by
  have each : problems.map (Value.toJson ∘ value) = problems.map toJson :=
    List.map_congr_left fun problem _ => problem.toJson_value
  simp only [bodyValue, body, Value.toJson, Value.membersJson, Value.listJson_eq, List.map_map,
    each]

theorem reads_textOrNull (depth : Nat) (text : Option String) : (textOrNull text).Reads depth := by
  cases text with
  | none => exact Value.reads_null depth
  | some text => exact Value.reads_text depth text

theorem reads_value (depth : Nat) (problem : Problem) : problem.value.Reads (depth + 1) := by
  refine Value.reads_object ?_ (by simp)
  simp [Value.reads_text, reads_textOrNull]

theorem parse_body (problems : List Problem) :
    Value.parse (body problems) = .ok (bodyValue problems) := by
  have listed : (Value.list (problems.map value)).Reads (125 + 1) :=
    Value.reads_list fun read member => by
      obtain ⟨problem, -, rfl⟩ := List.mem_map.mp member
      exact reads_value 124 problem
  have whole : (bodyValue problems).Reads (126 + 1) :=
    Value.reads_object (by simpa using listed) (by simp)
  rw [← toJson_bodyValue]
  exact Value.parse_toJson whole

end Problem

def Response.Tells (response : Response) : Prop :=
  response.status < 400 ∨ ∃ problem : Problem, problem.IsTitled ∧ response = .problem problem

-- What is left to do after the checks of a request, apart from health checks.
def Handling.Tells : Handling → Prop
  | activating _ | findingPage _ | loadingPage _ _ => True
  | pinging => False
  | answered response => response.Tells

def Route.IsGarbled : Route → Prop
  | activate token fingerprint => parameter? token = none ∨ parameter? fingerprint = none
  | checkWallet address => parameter? address = none
  | _ => False

namespace App

variable {app : App} {draw : Draw} {request : Request}

theorem tells_problem {fault : Problem} (titled : fault.IsTitled) : (problem fault).Tells :=
  .inr ⟨fault, titled, rfl⟩

theorem tells_ofActivation (activation : Registrar.Activation) :
    (ofActivation activation).Tells := by
  cases activation with
  | finished result =>
    cases result with
    | ok participant => exact .inl (by simp [Response.json])
    | error error => exact tells_problem (Problem.isTitled_ofRegistrationError error)
  | lookingUpAddress | lookingUpSponsor | inserting | inserted => trivial

theorem isTitled_listProblem (error : StoreError) : (listProblem error).IsTitled := by
  cases error with
  | outOfRange => exact Problem.isTitled_of _ (by decide)
  | duplicate | backend => exact Problem.isTitled_ofCause _

theorem isTitled_readClaims {fault : Problem} (refused : readClaims request = .error fault) :
    fault.IsTitled := by
  unfold readClaims at refused
  split at refused
  · cases refused
    exact Problem.isTitled_of _ (by decide)
  split at refused
  · cases refused
    exact Problem.isTitled_of _ (by decide)
  split at refused
  · cases refused
  next fault _ =>
    cases refused
    cases fault <;> exact Problem.isTitled_of _ (by decide)

theorem tells_advance (app : App) (draw : Draw) {handling : Handling} (tells : handling.Tells) :
    (app.advance draw handling).1.Tells := by
  cases handling with
  | activating activation => exact tells_ofActivation _
  | findingPage query =>
    simp only [advance]
    split
    · trivial
    · exact tells_problem (isTitled_listProblem _)
  | loadingPage format page =>
    simp only [advance]
    split
    · exact .inl (by cases format <;> simp [Participant.listResponse, Response.json])
    · exact tells_problem (isTitled_listProblem _)
  | pinging => cases tells
  | answered response => exact tells

theorem tells_answerAmid (draw : Draw) (met : List App) {handling : Handling}
    (tells : handling.Tells) : (answerAmid draw met handling).Tells := by
  induction met generalizing handling with
  | nil => exact tells
  | cons app met ih => exact ih (app.tells_advance draw tells)

theorem tells_list (app : App) (request : Request) (first second : List Char) :
    (app.list request first second).Tells := by
  unfold list
  split
  · split
    · exact tells_problem (Problem.isTitled_of _ (by decide))
    split
    · exact tells_problem (Problem.isTitled_of _ (by decide))
    split
    · exact tells_problem (Problem.isTitled_of _ (by decide))
    · trivial
  · exact tells_problem (Problem.isTitled_of _ (by decide))

theorem handle_cases (app : App) (draw : Draw) (request : Request) {route : Route}
    (gated : route.isGated = true) :
    (¬route.IsGarbled ∧ (app.handle draw request route).1.Tells) ∨
      (¬route.IsGarbled ∧ ∃ address isPresent, route = .checkWallet address ∧
        (app.handle draw request route).1 = .answered (presenceResponse isPresent)) ∨
      (route.IsGarbled ∧ (app.handle draw request route).1 = .answered (notText request)) := by
  cases route with
  | health => exact .inl ⟨id, .inl (by simp [healthResponse, Response.json])⟩
  | register =>
    refine .inl ⟨id, ?_⟩
    simp only [handle, register]
    split
    next refused => exact tells_problem (isTitled_readClaims refused)
    · split
      · exact .inl (by simp [Response.json])
      · exact tells_problem (Problem.isTitled_ofRegistrationError _)
  | activate token fingerprint =>
    simp only [handle, activate, Route.IsGarbled]
    cases Route.parameter? token with
    | none => exact .inr (.inr ⟨.inl rfl, rfl⟩)
    | some token =>
      cases Route.parameter? fingerprint with
      | none => exact .inr (.inr ⟨.inr rfl, rfl⟩)
      | some fingerprint => exact .inl ⟨by simp, tells_ofActivation _⟩
  | checkWallet address =>
    simp only [handle, checkWallet, Route.IsGarbled]
    cases Route.parameter? address with
    | none => exact .inr (.inr ⟨rfl, rfl⟩)
    | some text => exact .inr (.inl ⟨by simp, address, _, rfl, rfl⟩)
  | list first second => exact .inl ⟨id, app.tells_list request first second⟩
  | healthcheck => cases gated

end App

structure Response.Reports (response : Response) (method : String) : Prop where
  isJson : ("content-type", "application/json") ∈ response.headers
  body (whole : method ≠ "HEAD") : ∃ detail reason, Status.reason? response.status = some reason ∧
    Value.parse response.body = .ok (.object [("errors", .list [.object
      [("status", .text (toString response.status)), ("detail", Problem.textOrNull detail),
        ("title", .text reason)]])])

namespace App

variable {app : App} {met : List App} {call : Call} {route : Route}

theorem headers_deliver (app : App) (draw : Draw) (request : Request) (response : Response) :
    response.headers ⊆ (app.deliver draw request response).1.headers := by
  unfold deliver
  split
  · simp only [finish, Response.withHeaders]
    split <;> simp [Response.withoutBody]
  · simp [Response.withHeaders]

theorem reports_problem (app : App) (draw : Draw) (request : Request) {problem : Problem}
    (titled : problem.IsTitled) :
    (app.deliver draw request (.problem problem)).1.Reports request.method where
  isJson := app.headers_deliver draw request _ List.mem_cons_self
  body whole := by
    obtain ⟨reason, named⟩ := Option.isSome_iff_exists.mp titled.named
    refine ⟨problem.detail, reason, ?_, ?_⟩
    · rw [status_deliver, ← named, titled.title]
      rfl
    · rw [status_deliver, body_deliver _ _ _ _ (.inl whole)]
      simp only [Response.problem, Response.json, Problem.parse_body, Problem.bodyValue,
        Problem.value, named, List.map_cons, List.map_nil]
      rfl

theorem respondAmid_answered {response : Response}
    (answered : (app.receive call.draw call.clock call.request).1 = .answered response) :
    app.respondAmid met call = (app.deliver call.draw call.request response).1 := by
  unfold respondAmid
  rw [answered, answerAmid_answered]

theorem respondAmid_tells (tells : (app.receive call.draw call.clock call.request).1.Tells) :
    (app.respondAmid met call).status < 400 ∨
      (app.respondAmid met call).Reports call.request.method := by
  have later := tells_answerAmid call.draw met tells
  unfold respondAmid
  split
  next response answered =>
    rw [answered] at later
    rcases later with fine | ⟨problem, titled, rfl⟩
    · exact .inl (by rwa [status_deliver])
    · exact .inr (app.reports_problem call.draw call.request titled)
  · exact .inr (app.reports_problem call.draw call.request (Problem.isTitled_of none (by decide)))

theorem plain_of_allows (allowed : route.allows call.request.method = true) :
    call.request.method ≠ "OPTIONS" := by
  intro preflight
  rw [preflight] at allowed
  cases route <;> simp [Route.allows, Route.isPost] at allowed

def Passes (app : App) (call : Call) : Prop :=
  app.admits call.clock call.request = true ∧ app.hasKey call.request = true

section Matched

variable (found : Route.find? call.request.segments = some route) (gated : route.isGated = true)
  (allowed : route.allows call.request.method = true)
include found gated allowed

theorem receive_passed (passed : app.Passes call) :
    app.receive call.draw call.clock call.request =
      (app.charged call.clock call.request).handle call.draw call.request route := by
  rw [receive_served app call.draw call.clock found gated (plain_of_allows allowed) passed.1
    passed.2, serve, if_pos allowed]

theorem tells_of_not_passed (stopped : ¬app.Passes call) :
    (app.receive call.draw call.clock call.request).1.Tells := by
  have plain := plain_of_allows allowed
  cases admitted : app.admits call.clock call.request with
  | false =>
    rw [receive_throttled app call.draw call.clock found gated plain admitted]
    exact tells_problem (Problem.isTitled_of none (by decide))
  | true =>
    cases hasKey : app.hasKey call.request with
    | false =>
      rw [receive_locked app call.draw call.clock found gated plain admitted hasKey]
      exact tells_problem (Problem.isTitled_of none (by decide))
    | true => exact absurd ⟨admitted, hasKey⟩ stopped

theorem reported_of_clear (met : List App) (clear : ¬(app.Passes call ∧ route.IsGarbled))
    (fault : 400 ≤ (app.respondAmid met call).status) :
    (app.respondAmid met call).Reports call.request.method ∨
      (∃ address, route = .checkWallet address) ∧ (app.respondAmid met call).status = 404 ∧
        (call.request.method ≠ "HEAD" →
          (app.respondAmid met call).body = (presenceResponse false).body) := by
  have telling (tells : (app.receive call.draw call.clock call.request).1.Tells) :
      (app.respondAmid met call).Reports call.request.method :=
    (respondAmid_tells tells).resolve_left (Nat.not_lt.mpr fault)
  by_cases passed : app.Passes call
  case neg => exact .inl (telling (tells_of_not_passed found gated allowed passed))
  have received := receive_passed found gated allowed passed
  rcases (app.charged call.clock call.request).handle_cases call.draw call.request gated with
    ⟨-, tells⟩ | ⟨-, address, isPresent, wallet, answered⟩ | ⟨garbled, -⟩
  · exact .inl (telling (received ▸ tells))
  · have answer : app.respondAmid met call = (app.deliver call.draw call.request _).1 :=
      respondAmid_answered (received ▸ answered)
    rw [answer, status_deliver] at fault ⊢
    cases isPresent with
    | true => exact absurd fault (by decide)
    | false => exact .inr ⟨⟨address, wallet⟩, rfl, fun whole => body_deliver _ _ _ _ (.inl whole)⟩
  · exact absurd ⟨passed, garbled⟩ clear

theorem plain_of_garbled (met : List App) (passed : app.Passes call) (garbled : route.IsGarbled) :
    (app.respondAmid met call).status = 400 ∧
      ("content-type", "text/plain; charset=utf-8") ∈ (app.respondAmid met call).headers ∧
        (call.request.method ≠ "HEAD" → (app.respondAmid met call).body =
          "Invalid URL" ++ call.request.remark) := by
  have received := receive_passed found gated allowed passed
  rcases (app.charged call.clock call.request).handle_cases call.draw call.request gated with
    ⟨clear, -⟩ | ⟨clear, -⟩ | ⟨-, answered⟩
  · exact absurd garbled clear
  · exact absurd garbled clear
  · have answer : app.respondAmid met call = (app.deliver call.draw call.request (notText call.request)).1 :=
      respondAmid_answered (received ▸ answered)
    rw [answer, status_deliver]
    refine ⟨rfl, app.headers_deliver call.draw call.request _ List.mem_cons_self, fun whole => ?_⟩
    exact body_deliver _ _ _ _ (.inl whole)

theorem faults_reported (met : List App) :
    let response := app.respondAmid met call
    (400 ≤ response.status → ¬(app.Passes call ∧ route.IsGarbled) →
        response.Reports call.request.method ∨
          (∃ address, route = .checkWallet address) ∧ response.status = 404 ∧
            (call.request.method ≠ "HEAD" → response.body = (presenceResponse false).body)) ∧
      (app.Passes call → route.IsGarbled → response.status = 400 ∧
        ("content-type", "text/plain; charset=utf-8") ∈ response.headers ∧
          (call.request.method ≠ "HEAD" → response.body =
            "Invalid URL" ++ call.request.remark)) :=
  ⟨fun fault clear => reported_of_clear found gated allowed met clear fault,
    plain_of_garbled found gated allowed met⟩

end Matched

def mangled : Call where
  draw := dawn
  clock := 0
  request := {
    method := "POST", target := "/activate/%FF/x", headers := [("x-api-key", "key")] }

-- The same from a client that has no key.
def keyless : Call := { mangled with request := { mangled.request with headers := [] } }

def mangledRoute : Route := .activate "%FF".toList "x".toList

theorem mangledRoute_isGarbled : mangledRoute.IsGarbled := .inl (by decide +kernel)

theorem passes_mangled : lodge.Passes mangled := ⟨by decide +kernel, by decide⟩

theorem faults_reported_mangled :
    (lodge.respondAmid [] mangled).status = 400 ∧
      (lodge.respondAmid [] mangled).body = "Invalid URL" ∧
      (lodge.respondAmid [] keyless).Reports "POST" := by
  have found : Route.find? mangled.request.segments = some mangledRoute := by decide
  obtain ⟨status, -, body⟩ := (faults_reported found rfl rfl []).2 passes_mangled
    mangledRoute_isGarbled
  refine ⟨status, body (by decide), ?_⟩
  have locked : lodge.receive dawn 0 keyless.request = _ :=
    receive_locked lodge dawn 0 found rfl (by decide) (by decide +kernel) (by decide)
  have answer : lodge.respondAmid [] keyless = _ := respondAmid_answered (congrArg Prod.fst locked)
  have fault : 400 ≤ (lodge.respondAmid [] keyless).status := by
    rw [answer, status_deliver]
    decide
  have stopped : ¬lodge.Passes keyless := fun passed => absurd passed.2 (by decide)
  have told := (@faults_reported lodge keyless mangledRoute found rfl rfl []).1 fault
    fun garbled => stopped garbled.1
  exact told.resolve_right fun wallet => by
    obtain ⟨⟨address, other⟩, -⟩ := wallet
    cases other

theorem mangled_not_reported :
    Route.find? mangled.request.segments = some mangledRoute ∧
      mangledRoute.allows mangled.request.method = true ∧
      (lodge.respondTo mangled).1.status = 400 ∧
      ¬(lodge.respondTo mangled).1.Reports mangled.request.method := by
  have found : Route.find? mangled.request.segments = some mangledRoute := by decide
  have received := receive_passed found rfl rfl passes_mangled
  have undecoded : Route.parameter? "%FF".toList = none := by decide +kernel
  have answered : (lodge.charged 0 mangled.request).handle dawn mangled.request mangledRoute =
      (.answered (notText mangled.request), lodge.charged 0 mangled.request) := by
    simp only [mangledRoute, handle, activate, undecoded]
  have answer := respond_answered (received.trans answered)
  refine ⟨found, rfl, ?_, fun reports => ?_⟩
  · rw [respondTo, answer, status_deliver]
    rfl
  · obtain ⟨detail, reason, -, read⟩ := reports.body (by decide)
    rw [respondTo, answer, body_deliver _ _ _ _ (.inl (by decide))] at read
    have plain : (Value.parse (notText mangled.request).body).isOk = false := by decide +kernel
    rw [read] at plain
    cases plain

end App

end Enrolment
