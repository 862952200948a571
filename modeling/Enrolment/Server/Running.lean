import Enrolment.Drain
import Enrolment.Http.Pages
import Enrolment.Limiter.Sweeper
import Enrolment.Mail
import Enrolment.Server.Startup

set_option autoImplicit false

namespace Enrolment

structure Exchange where
  number : Nat
  request : Request
  entropy : Bytes
  handling : Handling
  -- When the statement under way is answered.
  due : Nat
  -- When the request is given up.
  deadline : Nat

inductive Phase
  | serving
  -- Requests under way are finished, then notifications are waited for.
  | stopping (since : Nat) (drain : Drain)
  | ended (ending : Ending)

structure Watch where
  interval : Nat
  next : Nat := 0
  underWay : Option Nat := none

structure Server where
  settings : Settings
  app : App
  epoch : Instant
  clock : Nat := 0
  phase : Phase := .serving
  metricsFault : Option ServeFault := none
  accepted : Nat := 0
  exchanges : List Exchange := []
  -- Requests that were given up while a statement of theirs was under way.
  abandoned : List Exchange := []
  -- What was answered to which request; a connection may end without an answer.
  answers : List (Nat × Option Response) := []
  watch : Option Watch := none
  sweeper : Sweeper
  slowness : Nat := 0
  mailReply : MailReply := .accepting
  -- The mails that have arrived at the mail service.
  mails : List Mail := []
  events : List Event := []

namespace Server

def draw (server : Server) (entropy : Bytes) : Draw :=
  ⟨server.epoch.addMillis server.clock, entropy⟩

def isServing (server : Server) : Bool :=
  match server.phase with
  | .serving => true
  | _ => false

def ending? (server : Server) : Option Ending :=
  match server.phase with
  | .ended ending => some ending
  | _ => none

def answer? (server : Server) (number : Nat) : Option (Option Response) :=
  server.answers.lookup number

def log (server : Server) (events : List Event) : Server :=
  { server with events := server.events ++ events }

def withRegistrar (server : Server) (registrar : Registrar) : Server :=
  { server with app := { server.app with registrar } }

-- On a developer's own machine notifications are logged instead of mailed.
def mailsOut (server : Server) : Bool := server.settings.server.environment != .localhost

def settle (server : Server) : Server :=
  let registrar := server.app.registrar
  let pending := registrar.outbox.pending
  if !server.mailsOut then
    server.withRegistrar { registrar with outbox := { registrar.outbox with held := false }.settle }
  else if registrar.outbox.held then server
  else
    let lost := if server.mailReply.isSuccess || server.ending?.isSome then []
      else pending.map Event.lost
    let mails := server.mails ++ pending.map (Mail.compose server.settings.mail)
    { (server.withRegistrar registrar.settle).log lost with mails }

-- Blanks around the value of a header do not belong to it.
def trimmedHeaders (request : Request) : Request :=
  let isBlank (char : Char) : Bool := char = ' ' || char = '\t'
  { request with
    headers := request.headers.map fun (name, value) =>
      (name, String.ofList (trimChars isBlank value.toList)) }

def reply (server : Server) (number : Nat) (response : Option Response) : Server :=
  { server with answers := server.answers ++ [(number, response)] }

def complete (server : Server) (exchange : Exchange) (response : Response) : Server :=
  let (response, app) := server.app.deliver (server.draw exchange.entropy) exchange.request response
  let response := if exchange.request.method = "HEAD" then response.withoutBody else response
  ({ server with app }.reply exchange.number (some response)).settle

def step (server : Server) (exchange : Exchange) : Exchange × Server :=
  let server := server.log (Event.ofStep server.app exchange.handling)
  let (handling, app) := server.app.advance (server.draw exchange.entropy) exchange.handling
  ({ exchange with handling, due := server.clock + server.slowness }, { server with app })

def proceed : Nat → Server → Exchange → Server
  | 0, server, exchange => { server with exchanges := server.exchanges ++ [exchange] }
  | steps + 1, server, exchange =>
    match exchange.handling with
    | .answered response => server.complete exchange response
    | .activating (.inserted _) =>
      let (exchange, server) := server.step exchange
      proceed steps server exchange
    | _ =>
      if exchange.due ≤ server.clock then
        let (exchange, server) := server.step exchange
        proceed steps server exchange
      else { server with exchanges := server.exchanges ++ [exchange] }

def stepLimit : Nat := 8

def receive (server : Server) (entropy : Bytes) (request : Request) : Nat × Server :=
  let number := server.accepted
  let server := { server with accepted := number + 1 }
  let request := trimmedHeaders request
  if !server.isServing then (number, server.reply number none)
  else
    match Pages.respond? request with
    | some response => (number, server.reply number (some response))
    | none =>
      let (handling, app) :=
        server.app.receive (server.draw entropy) (server.clock * 1000000) request
      let exchange : Exchange :=
        { number, request, entropy, handling
          due := server.clock + server.slowness
          deadline := server.clock + server.settings.server.timeout }
      (number, proceed stepLimit { server with app } exchange)

def receiveMetrics (server : Server) (request : Request) : Option Response :=
  if server.isServing && server.metricsFault.isNone then
    some (Pages.respondMetrics server.app.registrar.tally request)
  else none

def answerStatements (server : Server) : Server :=
  let (due, waiting) := server.exchanges.partition fun exchange => exchange.due ≤ server.clock
  due.foldl (proceed stepLimit) { server with exchanges := waiting }

def giveUp (server : Server) : Server :=
  let (late, waiting) :=
    server.exchanges.partition fun exchange => exchange.deadline ≤ server.clock
  late.foldl (fun server exchange => server.reply exchange.number (some (.empty 408)))
    { server with exchanges := waiting, abandoned := server.abandoned ++ late }

def finishStatement (server : Server) (exchange : Exchange) : Server :=
  match exchange.handling with
  | .activating activation =>
    let draw := server.draw exchange.entropy
    server.withRegistrar (server.app.registrar.finishStatement draw activation).2
  | _ => server

def finishStatements (server : Server) : Server :=
  let (due, waiting) := server.abandoned.partition fun exchange => exchange.due ≤ server.clock
  due.foldl finishStatement { server with abandoned := waiting }

def cut (server : Server) : Server :=
  server.exchanges.foldl (fun server exchange => server.reply exchange.number none)
    { server with exchanges := [] }

def isSuccess (response : Option Response) : Bool :=
  response.any fun response => 200 ≤ response.status && response.status < 300

def sweeperNow (server : Server) : Sweeper := { server.sweeper with clock := server.clock }

def stop (server : Server) : Server :=
  if server.isServing then
    { server with phase := .stopping server.clock .serving, sweeper := server.sweeperNow.cancel }
  else server

-- Ends a check that is answered, and starts one that is due. A server that fails it stops.
def lookAfter (server : Server) (watch : Watch) : Server :=
  match watch.underWay with
  | some number =>
    match server.answer? number with
    | none => server
    | some response =>
      let server := { server with watch := some { watch with underWay := none } }
      if isSuccess response then server else server.stop
  | none =>
    if watch.next ≤ server.clock then
      let (number, server) := server.receive [] { target := "/healthcheck" }
      { server with
        watch := some { watch with next := watch.next + watch.interval, underWay := some number } }
    else server

def sweep (server : Server) : Server :=
  let (sweeps, sweeper) := server.sweeperNow.turn
  let server := { server with sweeper }
  if sweeps then
    let idle := server.settings.limiter.idleNanos
    let (_, admission) := server.app.admission.sweep idle (server.clock * 1000000)
    { server with app := { server.app with admission } }
  else server

def drainTimeout (server : Server) : Nat := server.settings.server.drainTimeout

def finish (server : Server) (ending : Ending) : Server :=
  { server.log ending.events with phase := .ended ending }

-- Connections are cut when requests take too long to finish.
def cutLate (server : Server) (since : Nat) : Server :=
  if since + server.drainTimeout ≤ server.clock then server.cut else server

def windDown (server : Server) : Server :=
  match server.phase with
  | .stopping since drain =>
    let server := server.cutLate since
    let registrar := server.app.registrar
    let (drain, outbox) :=
      drain.poll server.drainTimeout server.clock server.exchanges.isEmpty registrar.outbox
    let server := server.withRegistrar { registrar with outbox }
    let ending := Ending.stopped none server.metricsFault
    match drain with
    | .finished true => server.finish ending
    | .finished false => (server.log [.gaveUp outbox.pending.length]).finish ending
    | drain => { server with phase := .stopping since drain }
  | _ => server

def happen (server : Server) : Server :=
  let server := server.settle.answerStatements.giveUp.finishStatements.sweep
  let server := match server.isServing, server.watch with
    | true, some watch => server.lookAfter watch
    | _, _ => server
  server.windDown

def nextTime? (server : Server) : Option Nat :=
  let requests := server.exchanges.map fun exchange => min exchange.due exchange.deadline
  let statements := server.abandoned.map Exchange.due
  let checks := match server.isServing, server.watch with
    | true, some watch =>
      match watch.underWay with
      | some number => if (server.answer? number).isSome then [server.clock] else []
      | none => [watch.next]
    | _, _ => []
  let sweeps := server.sweeper.due?.toList
  let ends := match server.phase with
    | .stopping since .serving =>
      [if server.exchanges.isEmpty then server.clock else since + server.drainTimeout]
    | .stopping _ (.waiting since) =>
      [if server.app.registrar.outbox.emptied then server.clock
        else since + server.drainTimeout]
    | _ => []
  (requests ++ statements ++ checks ++ sweeps ++ ends).min?

def runUntil (holds : Server → Bool) (limit : Option Nat) : Nat → Server → Server
  | 0, server => server
  | steps + 1, server =>
    if holds server then server
    else
      match server.nextTime?, limit with
      | none, none => server
      | none, some limit => { server with clock := max server.clock limit }
      | some time, limit =>
        if limit.any (· < time) then { server with clock := max server.clock (limit.getD 0) }
        else runUntil holds limit steps { server with clock := max server.clock time }.happen

def patience : Nat := 1000000

def runFor (server : Server) (millis : Nat) : Server :=
  runUntil (fun _ => false) (some (server.clock + millis)) patience server

def runUntilAnswered (server : Server) (number : Nat) : Server :=
  runUntil (fun server => (server.answer? number).isSome) none patience server

def runUntilEnded (server : Server) : Server :=
  runUntil (fun server => server.ending?.isSome) none patience server

def force (server : Server) : Server := { server.stop with phase := .ended .forced }

def setStore (server : Server) (failing : List Statement) (hidden : List String)
    (slowness : Nat) : Server :=
  let registrar := server.app.registrar
  let store := { registrar.store with failing, hidden }
  { server.withRegistrar { registrar with store } with slowness }

def setMail (server : Server) (mailReply : MailReply) (held : Bool) : Server :=
  let registrar := server.app.registrar
  let outbox := { registrar.outbox with held }
  { server.withRegistrar { registrar with outbox } with mailReply }.settle

def watchOf (check : Settings.Healthcheck) : Option Watch :=
  if check.isEnabled && check.interval > 0 then some { interval := check.interval } else none

def ofLaunch (settings : Settings) (surroundings : Surroundings) (epoch : Instant)
    (launch : Launch) (app : App) : Server :=
  happen {
    settings, app, epoch
    metricsFault := Launch.metricsFault? settings surroundings
    watch := watchOf settings.healthcheck
    sweeper := { interval := settings.limiter.sweepInterval * 1000 }
    events := launch.events }

end Server

end Enrolment
