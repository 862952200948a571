import Enrolment.Cipher.EmailCipher
import Enrolment.Decimal.Shortest
import Enrolment.Described
import Enrolment.Environment
import Enrolment.Limiter.Table
import Enrolment.Mail
import Enrolment.Token.Service

set_option autoImplicit false

namespace Enrolment

namespace Settings

-- Durations are milliseconds.
structure Server where
  environment : Environment
  port : Nat
  metricsPort : Nat
  timeout : Nat
  activationBase : Url
  -- How long a stopping server waits for requests, and then for notifications.
  drainTimeout : Nat
  deriving Repr, DecidableEq, Inhabited

-- Key material that does not suit the algorithm is left aside.
structure Token where
  algorithm : Algorithm
  issuer : String
  -- How many seconds a token lives.
  window : Nat
  secret : Option String
  -- The file of the signing key, seen from the directory of the settings.
  keyPath : Option String
  deriving Repr, DecidableEq, Inhabited

-- Durations are seconds.
structure Limiter (ν : Type) where
  isEnabled : Bool
  rate : ν
  burst : Nat
  sweepInterval : Nat
  idleThreshold : Nat
  deriving Inhabited

structure Security where
  apiKey : String
  listPath : String
  deriving Repr, DecidableEq, Inhabited

structure Database where
  url : String
  -- How many seconds a connection may take.
  connectTimeout : Nat
  -- The key for emails, in base64.
  encryptionKey : String
  deriving Repr, DecidableEq, Inhabited

-- How the server watches itself; the interval is in milliseconds.
structure Healthcheck where
  isEnabled : Bool
  interval : Nat
  maxRetries : Nat
  deriving Repr, DecidableEq, Inhabited

end Settings

structure Settings where
  server : Settings.Server
  token : Settings.Token
  limiter : Settings.Limiter Float
  security : Settings.Security
  database : Settings.Database
  mail : MailAccount
  healthcheck : Settings.Healthcheck
  path : Option String := none
  deriving Inhabited

namespace Settings

inductive LimiterFault (ν : Type)
  | sweepInterval
  | rate (rate : ν)
  | burst

def LimiterFault.message : LimiterFault Float → String
  | sweepInterval => "limiter.sweep_interval_secs must be at least 1"
  | .rate value => "limiter.rate_per_sec must be a positive number, got " ++ Decimal.text value
  | burst => "limiter.burst must be at least 1"

variable {ν : Type}

-- Clients are swept even where they are not limited.
def Limiter.check [Amount ν] (limiter : Limiter ν) : Except (LimiterFault ν) Unit :=
  if limiter.sweepInterval = 0 then .error .sweepInterval
  else if !limiter.isEnabled then .ok ()
  else if !Amount.isPositive limiter.rate then .error (.rate limiter.rate)
  else if limiter.burst = 0 then .error .burst
  else .ok ()

def Limiter.quota (limiter : Limiter ν) : Quota ν := ⟨limiter.rate, limiter.burst⟩

def Limiter.idleNanos (limiter : Limiter ν) : Nat := limiter.idleThreshold * 1000000000

def Limiter.admission [Amount ν] (limiter : Limiter ν) :
    Except (LimiterFault ν) (Admission ν) := do
  limiter.check
  return if limiter.isEnabled then .perClient ⟨limiter.quota, []⟩ else .unlimited

def Security.segments? (security : Security) : Option (String × String) :=
  match splitAt '/' (trimChars (· = '/') security.listPath.toList) with
  | [first, second] =>
    if first.isEmpty || second.isEmpty then none
    else some (String.ofList first, String.ofList second)
  | _ => none

def listPathMessage : String := "security.list_path must have exactly two segments"

def cipher (settings : Settings) : Except EmailCipher.Fault EmailCipher :=
  EmailCipher.ofText settings.database.encryptionKey

def cipherMessage : String := "database.encryption_key is invalid"

-- The path up to its last slash, which names the directory of a file.
def directory (path : String) : String :=
  String.ofList (path.toList.reverse.dropWhile (· ≠ '/')).reverse

def resolve (settings : Settings) (path : String) : String :=
  match settings.path with
  | none => path
  | some file => if path.toList.head? = some '/' then path else directory file ++ path

inductive KeySource
  | secret (secret : String)
  | file (path : String)
  -- A key of its own for every start.
  | fresh
  deriving Repr, DecidableEq

def keySource (settings : Settings) : KeySource :=
  if settings.token.algorithm.isSymmetric then
    (settings.token.secret.map .secret).getD .fresh
  else
    (settings.token.keyPath.map fun path => .file (settings.resolve path)).getD .fresh

inductive KeySourceFault
  | unreadable (path : String)
  | key (fault : KeyFault)
  deriving Repr, DecidableEq

def KeySourceFault.message : KeySourceFault → String
  | unreadable path => "reading token key " ++ path
  | key fault => fault.message

def tokenService (settings : Settings) (readFile : String → Option String) (entropy : Bytes) :
    Except KeySourceFault TokenService := do
  let algorithm := settings.token.algorithm
  let material ← match settings.keySource with
    | .secret secret => pure (.secret (Bytes.ofString secret))
    | .file path =>
      match readFile path with
      | some armoured => pure (.armoured armoured)
      | none => throw (.unreadable path)
    | .fresh => pure (.fresh entropy)
  let key ← (SigningKey.ofMaterial algorithm material).mapError .key
  return ⟨algorithm, key, settings.token.issuer, settings.token.window⟩

def redacted : String := "<redacted>"

def Token.described (token : Token) : String :=
  Described.whole "Token"
    [("algorithm", token.algorithm.name), ("issuer", Quoted.encode token.issuer),
     ("window_secs", toString token.window),
     ("secret", Quoted.encodeOption (token.secret.map fun _ => redacted)),
     ("key_path", Quoted.encodeOption token.keyPath)]

def Security.described : String :=
  Described.whole "Security"
    [("api_key", Quoted.encode redacted), ("list_path", Quoted.encode redacted)]

def Database.described (database : Database) : String :=
  Described.partly "Database" [("connect_timeout", toString database.connectTimeout)]

end Settings

def MailAccount.described (account : MailAccount) : String :=
  Described.partly "Mailgun"
    [("domain", Quoted.encode account.domain),
     ("from_address", Quoted.encode account.fromAddress),
     ("from_name", Quoted.encode account.fromName),
     ("activation_template", Quoted.encode account.activationTemplate),
     ("confirmation_template", Quoted.encode account.confirmationTemplate)]

end Enrolment
