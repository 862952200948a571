import Enrolment.Environment
import Enrolment.Http.Listing
import Enrolment.Http.MediaType
import Enrolment.Http.Route
import Enrolment.Limiter.Table
import Enrolment.Registrar
import Enrolment.Ulid

set_option autoImplicit false

namespace Enrolment

structure App where
  registrar : Registrar
  admission : Admission Float := .unlimited
  apiKey : String
  listPath : String × String
  environment : Environment := .prod

inductive Handling
  | activating (activation : Registrar.Activation)
  | findingPage (query : ListQuery)
  | loadingPage (format : ListFormat) (page : Page)
  | pinging
  | answered (response : Response)

namespace App

def problem (problem : Problem) : Handling := .answered (.problem problem)

def letIn (app : App) (clock : Nat) (request : Request) : Bool × App :=
  let (allowed, admission) := app.admission.allow request.peer.text clock
  let app := { app with admission }
  if allowed then (true, app)
  else (false, { app with registrar := app.registrar.counted .rejections })

def hasKey (app : App) (request : Request) : Bool :=
  request.headerText? "x-api-key" = some app.apiKey

def bodyLimit : Nat := 2 * 1024 * 1024

def declaresJson (request : Request) : Bool :=
  match request.headerText? "content-type" with
  | some text => ((MediaType.parse? text).map MediaType.isJson).getD false
  | none => false

def bodyProblem (request : Request) : Json.Fault → Problem
  | .malformed | .truncated =>
    .of 400 (some ("Failed to parse the request body as JSON" ++ request.remark))
  | .mismatched =>
    .of 422 (some ("Failed to deserialize the JSON body into the target type" ++ request.remark))

-- The claims at the start of a body; whatever follows them is not looked at.
def readClaims (request : Request) : Except Problem Claims :=
  if !declaresJson request then
    .error (.of 415 (some "Expected request with \x60Content-Type: application/json\x60"))
  else if request.body.length > bodyLimit then
    .error (.of 413 (some ("Failed to buffer the request body" ++ request.remark)))
  else
    match Claims.reader request.body with
    | .ok (claims, _) => .ok claims
    | .error fault => .error (bodyProblem request fault)

-- The token itself is shown on the developer's own machine only.
def registrationJson (app : App) (registration : Registration) : String :=
  let token := if app.environment = .localhost then
    [("token", Json.quote registration.token)] else []
  Json.object (("fingerprint", Json.quote registration.fingerprint) :: token)

def register (app : App) (draw : Draw) (request : Request) : Handling × App :=
  match readClaims request with
  | .error fault => (problem fault, app)
  | .ok claims =>
    let (result, registrar) := app.registrar.register draw claims
    let app := { app with registrar }
    match result with
    | .ok registration => (.answered (.json 202 (app.registrationJson registration)), app)
    | .error error => (problem (.ofRegistrationError error), app)

def ofActivation : Registrar.Activation → Handling
  | .finished (.ok participant) => .answered (.json 201 participant.toJson)
  | .finished (.error error) => problem (.ofRegistrationError error)
  | activation => .activating activation

def notText (request : Request) : Response := .plainText 400 ("Invalid URL" ++ request.remark)

def activate (app : App) (draw : Draw) (request : Request) (token fingerprint : List Char) :
    Handling × App :=
  match Route.parameter? token, Route.parameter? fingerprint with
  | some token, some fingerprint =>
    let (activation, registrar) := app.registrar.beginActivation draw.now token fingerprint
    (ofActivation activation, { app with registrar })
  | _, _ => (.answered (notText request), app)

def presenceResponse (isPresent : Bool) : Response :=
  .json (if isPresent then 200 else 404) (Json.object [("registered", Json.boolText isPresent)])

def checkWallet (app : App) (request : Request) (address : List Char) : Handling :=
  match Route.parameter? address with
  | some address => .answered (presenceResponse (app.registrar.isPresent address))
  | none => .answered (notText request)

def badQuery (request : Request) : Problem :=
  .of 400 (some ("Failed to deserialize query string" ++ request.remark))

def list (app : App) (request : Request) (first second : List Char) : Handling :=
  match Route.parameter? first, Route.parameter? second with
  | some first, some second =>
    if (first, second) ≠ app.listPath then problem .notFound
    else
      match ListQuery.parse? request.query with
      | none => problem (badQuery request)
      | some query =>
        if query.limit.isSome && query.offset.isNone then
          problem (.of 400 (some "max requires offset"))
        else .findingPage query
  | _, _ => problem (.of 400 (some ("Invalid URL" ++ request.remark)))

def listProblem : StoreError → Problem
  | .outOfRange offset limit size =>
    .of 400 (some (StoreError.outOfRange offset limit size).message)
  | error => .ofCause (.store error)

def healthResponse : Response := .json 200 (Json.object [("status", Json.quote "ok")])

def healthcheckResponse (reachable : Bool) (pending : Nat) : Response :=
  .json (if reachable then 200 else 503)
    (Json.object [("store_reachable", Json.boolText reachable),
      ("pending_notifications", toString pending)])

def handle (app : App) (draw : Draw) (request : Request) : Route → Handling × App
  | .health => (.answered healthResponse, app)
  | .register => app.register draw request
  | .activate token fingerprint => app.activate draw request token fingerprint
  | .checkWallet address => (app.checkWallet request address, app)
  | .list first second => (app.list request first second, app)
  | .healthcheck => (.pinging, app)

def advance (app : App) (draw : Draw) : Handling → Handling × App
  | .activating activation =>
    let (activation, registrar) := app.registrar.advance draw activation
    (ofActivation activation, { app with registrar })
  | .findingPage query =>
    match app.registrar.store.findPage query.offset query.limit with
    | .ok page => (.loadingPage (query.format.getD .json) page, app)
    | .error error => (problem (listProblem error), app)
  | .loadingPage format page =>
    match app.registrar.store.loadPage page with
    | .ok participants => (.answered (Participant.listResponse format participants), app)
    | .error error => (problem (listProblem error), app)
  | .pinging =>
    (.answered (healthcheckResponse app.registrar.store.ping.toBool
      app.registrar.outbox.pending.length), app)
  | .answered response => (.answered response, app)

-- The layers around a route, from the outside: `CorsLayer` answers each preflight itself, then come
-- the two gates, and axum's method router refuses other methods behind them. A `route_layer` is
-- around the routes only, so that the gates do not see a path without a route.
def enter (app : App) (draw : Draw) (clock : Nat) (request : Request) (route : Route) :
    Handling × App :=
  let serve (app : App) : Handling × App :=
    if route.allows request.method then app.handle draw request route
    else (.answered (.empty 405), app)
  if !route.isGated then serve app
  else if request.method = "OPTIONS" then (.answered (.empty 200), app)
  else
    let (allowed, app) := app.letIn clock request
    if !allowed then (problem (.ofRegistrationError .throttled), app)
    else if !app.hasKey request then (problem (.bare 401), app)
    else serve app

def receive (app : App) (draw : Draw) (clock : Nat) (request : Request) : Handling × App :=
  match Route.find? request.segments with
  | some route => app.enter draw clock request route
  | none => (problem .notFound, app)

def originHeaders (request : Request) : Headers :=
  [("access-control-allow-origin", "*"), ("vary", "origin"),
    ("vary", "access-control-request-method"), ("vary", "access-control-request-headers")] ++
  if request.method = "OPTIONS" then
    [("access-control-allow-methods", "GET,POST"),
      ("access-control-allow-headers", "content-type,accept,x-api-key")]
  else []

def finish (request : Request) (route : Route) (response : Response) : Response :=
  let allow := if route.allows request.method then [] else [("allow", route.allowed)]
  let origin := if route.isGated then originHeaders request else []
  let response := response.withHeaders (allow ++ origin)
  if request.method = "HEAD" && !route.isPost then response.withoutBody else response

def requestId (draw : Draw) (request : Request) : String :=
  (request.headers.first? "request_id").getD (Ulid.text draw.now draw.entropy)

def deliver (app : App) (draw : Draw) (request : Request) (response : Response) :
    Response × App :=
  let identified := [("request_id", requestId draw request)]
  match Route.find? request.segments with
  | some route =>
    let counter := .requests request.method route.template response.status
    ((finish request route response).withHeaders identified,
      { app with registrar := app.registrar.counted counter })
  | none => (response.withHeaders identified, app)

def run (draw : Draw) : Nat → Handling × App → Handling × App
  | 0, state => state
  | steps + 1, (handling, app) => run draw steps (app.advance draw handling)

def respond (app : App) (draw : Draw) (clock : Nat) (request : Request) : Response × App :=
  match run draw 4 (app.receive draw clock request) with
  | (.answered response, app) => app.deliver draw request response
  | (_, app) => app.deliver draw request (.problem .internal)

structure Parts where
  tokens : Option TokenService := none
  store : Option Store := none
  hasNotifier : Bool := false
  apiKey : Option String := none
  listPath : Option (String × String) := none
  base : Option Url := none
  admission : Admission Float := .unlimited
  environment : Environment := .prod

inductive AssemblyFault
  | missing (part : String)
  | emptyKey
  deriving Repr, DecidableEq

def AssemblyFault.message : AssemblyFault → String
  | missing part => part ++ " is required"
  | emptyKey => "api_key must not be empty"

def require {α : Type} (part : String) : Option α → Except AssemblyFault α
  | some value => .ok value
  | none => .error (.missing part)

def assemble (parts : Parts) : Except AssemblyFault App := do
  let tokens ← require "token_service" parts.tokens
  let store ← require "store" parts.store
  require "notifier" (if parts.hasNotifier then some () else none)
  let apiKey ← require "api_key" parts.apiKey
  if apiKey.isEmpty then throw .emptyKey
  let listPath ← require "list_path" parts.listPath
  let base ← require "activation_base_url" parts.base
  return {
    registrar := { tokens, store, base }
    admission := parts.admission
    apiKey, listPath
    environment := parts.environment }

end App

end Enrolment
