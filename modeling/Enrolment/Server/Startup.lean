import Enrolment.Server.Event
import Enrolment.Settings.Basic
import Enrolment.Settings.Files
import Enrolment.Store.Migration

set_option autoImplicit false

namespace Enrolment

structure Surroundings where
  database : Database
  failing : List Statement := []
  readFile : FileReader := fun _ => none
  entropy : Bytes := []
  isPortTaken : Bool := false
  isMetricsPortTaken : Bool := false

inductive StartFault
  | migration
  | cipher
  | key (fault : Settings.KeySourceFault)
  | limiter (fault : Settings.LimiterFault Float)
  | listPath

inductive ServeFault
  | assembly (fault : App.AssemblyFault)
  | warming (error : StoreError)
  | binding (name : String) (port : Nat)

def StartFault.message : StartFault → String
  | migration => "Could not run migrations"
  | cipher => Settings.cipherMessage
  | key fault => fault.message
  | limiter fault => fault.message
  | listPath => Settings.listPathMessage

def ServeFault.message : ServeFault → String
  | assembly fault => fault.message
  | warming error => error.message
  | binding name port => s!"{name} server failed to bind 0.0.0.0:{port}"

inductive Ending
  | refused (fault : StartFault)
  -- The pool of connections cannot wait for no time at all.
  | panicked
  -- Its parts have ended, each with a fault or as they were told.
  | stopped (app metrics : Option ServeFault)
  -- A second signal ended the process at once.
  | forced

namespace Ending

def panicMessage : String := "connection_timeout must be non-zero"

def exitCode : Ending → Nat
  | refused _ => 1
  | panicked => 101
  | stopped .. => 0
  | forced => 130

def events : Ending → List Event
  | stopped app metrics =>
    (metrics.toList.map fun fault => .crashed "metrics" fault.message) ++
      app.toList.map fun fault => .crashed "app" fault.message
  | _ => []

def withMetrics (metrics : Option ServeFault) : Ending → Ending
  | stopped app _ => stopped app metrics
  | ending => ending

end Ending

structure Launch where
  database : Database
  events : List Event := []
  result : Except Ending App

namespace Launch

def assemble (settings : Settings) (surroundings : Surroundings) (store : Store) :
    Except Ending App := do
  let tokens ← (settings.tokenService surroundings.readFile surroundings.entropy).mapError
    fun fault => .refused (.key fault)
  let admission ← settings.limiter.admission.mapError fun fault => .refused (.limiter fault)
  match settings.security.segments? with
  | none => throw (.refused .listPath)
  | some listPath =>
    (App.assemble {
      tokens, store, listPath, admission
      hasNotifier := true
      apiKey := settings.security.apiKey
      base := settings.server.activationBase
      environment := settings.server.environment }).mapError
        fun fault => .stopped (some (.assembly fault)) none

def metricsFault? (settings : Settings) (surroundings : Surroundings) : Option ServeFault :=
  if surroundings.isMetricsPortTaken then some (.binding "Metrics" settings.server.metricsPort)
  else none

def warmUp (settings : Settings) (surroundings : Surroundings) (launch : Launch) (app : App) :
    Launch :=
  match app.registrar.warm with
  | .error error => { launch with result := .error (.stopped (some (.warming error)) none) }
  | .ok (participants, registrar) =>
    let launch := { launch with events := launch.events ++ [Event.warmed participants] }
    if surroundings.isPortTaken then
      { launch with
        result := .error (.stopped (some (.binding "Application" settings.server.port)) none) }
    else { launch with result := .ok { app with registrar } }

def afterMigration (settings : Settings) (surroundings : Surroundings) (launch : Launch) :
    Launch :=
  if settings.database.connectTimeout = 0 then { launch with result := .error .panicked }
  else
    match settings.cipher with
    | .error _ => { launch with result := .error (.refused .cipher) }
    | .ok cipher =>
      let store : Store :=
        { cipher, table := launch.database.table, failing := surroundings.failing }
      match assemble settings surroundings store with
      | .ok app => warmUp settings surroundings launch app
      | .error ending => { launch with result := .error ending }

def concluded (settings : Settings) (surroundings : Surroundings) (launch : Launch) : Launch :=
  match launch.result with
  | .ok _ => launch
  | .error ending =>
    let ending := ending.withMetrics (metricsFault? settings surroundings)
    { launch with events := launch.events ++ ending.events, result := .error ending }

def run (settings : Settings) (surroundings : Surroundings) : Launch :=
  match surroundings.database.migrate (surroundings.failing.contains .migrate) with
  | none => { database := surroundings.database, result := .error (.refused .migration) }
  | some (applied, database) =>
    let launch : Launch := { database, events := [.migrated applied], result := .error .panicked }
    concluded settings surroundings (afterMigration settings surroundings launch)

end Launch

end Enrolment
