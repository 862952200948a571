import Enrolment.Json.Value
import Enrolment.Settings.Basic

set_option autoImplicit false

namespace Enrolment.Settings

open Json (Value)

def wholeNumber (value : Nat) : Value := .number (.natural value)

def textOrNull : Option String → Value
  | some value => .text value
  | none => .null

def Server.members (server : Server) : List (String × Value) :=
  [("environment", .text server.environment.name), ("port", wholeNumber server.port),
   ("metrics_port", wholeNumber server.metricsPort), ("timeout_ms", wholeNumber server.timeout),
   ("activation_base_url", .text server.activationBase.text),
   ("drain_timeout_ms", wholeNumber server.drainTimeout)]

def Token.members (token : Token) : List (String × Value) :=
  [("algorithm", .text token.algorithm.name), ("issuer", .text token.issuer),
   ("window_secs", wholeNumber token.window), ("secret", textOrNull token.secret),
   ("key_path", textOrNull token.keyPath)]

-- The rate is written as text, since it need not be a number that JSON has.
def Limiter.members (limiter : Limiter Float) : List (String × Value) :=
  [("enabled", .boolean limiter.isEnabled), ("rate_per_sec", .text (Decimal.text limiter.rate)),
   ("burst", wholeNumber limiter.burst), ("sweep_interval_secs", wholeNumber limiter.sweepInterval),
   ("idle_threshold_secs", wholeNumber limiter.idleThreshold)]

def Security.members (security : Security) : List (String × Value) :=
  [("api_key", .text security.apiKey), ("list_path", .text security.listPath)]

def Database.members (database : Database) : List (String × Value) :=
  [("url", .text database.url), ("connect_timeout", wholeNumber database.connectTimeout),
   ("encryption_key", .text database.encryptionKey)]

def mailMembers (account : MailAccount) : List (String × Value) :=
  [("api_key", .text account.apiKey), ("domain", .text account.domain),
   ("from_address", .text account.fromAddress), ("from_name", .text account.fromName),
   ("activation_subject", .text account.activationSubject),
   ("activation_template", .text account.activationTemplate),
   ("confirmation_subject", .text account.confirmationSubject),
   ("confirmation_template", .text account.confirmationTemplate)]

def Healthcheck.members (check : Healthcheck) : List (String × Value) :=
  [("enabled", .boolean check.isEnabled), ("interval_ms", wholeNumber check.interval),
   ("max_retries", wholeNumber check.maxRetries)]

end Enrolment.Settings
