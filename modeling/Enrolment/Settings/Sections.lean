import Enrolment.Settings.Reading

set_option autoImplicit false

namespace Enrolment.Settings

def environmentReader : Reader Environment := variant "AppEnvironment" Environment.ofName?

def algorithmReader : Reader Algorithm := variant "Algorithm" Algorithm.ofName?

def Server.fields : List (Field Server) :=
  [.required "environment" environmentReader fun value server => { server with environment := value },
   .required "port" (natural 16) fun value server => { server with port := value },
   .required "metrics_port" (natural 16) fun value server => { server with metricsPort := value },
   .required "timeout_ms" unsigned fun value server => { server with timeout := value },
   .required "activation_base_url" url fun value server => { server with activationBase := value },
   .required "drain_timeout_ms" unsigned fun value server => { server with drainTimeout := value }]

def Token.fields : List (Field Token) :=
  [.required "algorithm" algorithmReader fun value token => { token with algorithm := value },
   .required "issuer" text fun value token => { token with issuer := value },
   .required "window_secs" unsigned fun value token => { token with window := value },
   .optional "secret" text fun value token => { token with secret := value },
   .optional "key_path" text fun value token => { token with keyPath := value }]

def Limiter.fields : List (Field (Limiter Float)) :=
  [.required "enabled" boolean fun value limiter => { limiter with isEnabled := value },
   .required "rate_per_sec" real fun value limiter => { limiter with rate := value },
   .required "burst" (natural 32) fun value limiter => { limiter with burst := value },
   .required "sweep_interval_secs" unsigned fun value limiter =>
     { limiter with sweepInterval := value },
   .required "idle_threshold_secs" unsigned fun value limiter =>
     { limiter with idleThreshold := value }]

def Security.fields : List (Field Security) :=
  [.required "api_key" text fun value security => { security with apiKey := value },
   .required "list_path" text fun value security => { security with listPath := value }]

def Database.fields : List (Field Database) :=
  [.required "url" text fun value database => { database with url := value },
   .required "connect_timeout" unsigned fun value database =>
     { database with connectTimeout := value },
   .required "encryption_key" text fun value database => { database with encryptionKey := value }]

def mailFields : List (Field MailAccount) :=
  [.required "api_key" text fun value mail => { mail with apiKey := value },
   .required "domain" text fun value mail => { mail with domain := value },
   .required "from_address" text fun value mail => { mail with fromAddress := value },
   .required "from_name" text fun value mail => { mail with fromName := value },
   .required "activation_subject" text fun value mail => { mail with activationSubject := value },
   .required "activation_template" text fun value mail => { mail with activationTemplate := value },
   .required "confirmation_subject" text fun value mail =>
     { mail with confirmationSubject := value },
   .required "confirmation_template" text fun value mail =>
     { mail with confirmationTemplate := value }]

def Healthcheck.fields : List (Field Healthcheck) :=
  [.required "enabled" boolean fun value check => { check with isEnabled := value },
   .required "interval_ms" unsigned fun value check => { check with interval := value },
   .required "max_retries" (natural 32) fun value check => { check with maxRetries := value }]

def sectionReader {δ : Type} [Inhabited δ] (title : String) (fields : List (Field δ)) : Reader δ :=
  readSection title fields default

def fields : List (Field Settings) :=
  [.required "server" (sectionReader "Server" Server.fields) fun value settings =>
     { settings with server := value },
   .required "token" (sectionReader "Token" Token.fields) fun value settings =>
     { settings with token := value },
   .required "limiter" (sectionReader "Limiter" Limiter.fields) fun value settings =>
     { settings with limiter := value },
   .required "security" (sectionReader "Security" Security.fields) fun value settings =>
     { settings with security := value },
   .required "database" (sectionReader "Database" Database.fields) fun value settings =>
     { settings with database := value },
   .required "mailgun" (sectionReader "Mailgun" mailFields) fun value settings =>
     { settings with mail := value },
   .required "healthcheck" (sectionReader "Healthcheck" Healthcheck.fields) fun value settings =>
     { settings with healthcheck := value }]

def keys : List String :=
  let named {δ : Type} (title : String) (fields : List (Field δ)) : List String :=
    fields.map fun field => title ++ "." ++ field.name
  named "server" Server.fields ++ named "token" Token.fields ++ named "limiter" Limiter.fields ++
    named "security" Security.fields ++ named "database" Database.fields ++
    named "mailgun" mailFields ++ named "healthcheck" Healthcheck.fields

def ofTree (tree : SettingTree) : Except Fault Settings := do
  let settings ← readSection "Settings" fields default tree
  settings.limiter.check.mapError .limiter
  return settings

end Enrolment.Settings
