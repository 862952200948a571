import Enrolment.Json.Record
import Enrolment.Json.Writer
import Enrolment.Outbox
import Enrolment.Url.Reading

set_option autoImplicit false

namespace Enrolment

structure MailAccount where
  apiKey : String
  domain : String
  fromAddress : String
  fromName : String
  activationSubject : String
  activationTemplate : String
  confirmationSubject : String
  confirmationTemplate : String
  deriving Repr, DecidableEq, Inhabited

structure Mail where
  target : String
  credentials : String
  recipient : String
  sender : String
  subject : String
  template : String
  parameters : List (String × String)
  deriving Repr, DecidableEq

namespace Mail

def host : String := "api.mailgun.net"

def targetOf (domain : String) : String :=
  match Url.parse ("https://" ++ host ++ "/v3/" ++ domain ++ "/messages") with
  | .ok url => String.ofList (url.path.text ++ Url.behind '?' url.query)
  | .error _ => "/v3/" ++ domain ++ "/messages"

def compose (account : MailAccount) (notification : Notification) : Mail :=
  let mail (recipient subject template : String) (parameters : List (String × String)) : Mail :=
    { target := targetOf account.domain
      credentials := "api:" ++ account.apiKey
      recipient, subject, template, parameters
      sender := account.fromName ++ " <" ++ account.fromAddress ++ ">" }
  match notification with
  | .activationLink contact link fingerprint =>
    mail contact account.activationSubject account.activationTemplate
      [("link", link), ("fingerprint", fingerprint)]
  | .confirmation contact => mail contact account.confirmationSubject account.confirmationTemplate []

def toJson (mail : Mail) : String :=
  let parameters := mail.parameters.map fun (name, value) => (name, Json.quote value)
  let form := [("from", Json.quote mail.sender), ("h:X-Mailgun-Variables", Json.object parameters),
    ("html", Json.quote ""), ("subject", Json.quote mail.subject),
    ("template", Json.quote mail.template), ("text", Json.quote ""),
    ("to", Json.quote mail.recipient)]
  Json.object [("auth", Json.quote mail.credentials), ("form", Json.object form),
    ("host", Json.quote host), ("request", Json.quote ("POST " ++ mail.target)),
    ("type", Json.quote "application/x-www-form-urlencoded")]

end Mail

inductive MailReply
  | answer (status : Nat) (body : String)
  | close
  deriving Repr, DecidableEq

namespace MailReply

def accepting : MailReply :=
  answer 200 (Json.object [("message", Json.quote "Queued"), ("id", Json.quote "1")])

def receiptReader : Json.Reader (String × String) :=
  Json.record [.required "message" Json.text fun value receipt => (value, receipt.2),
    .required "id" Json.text fun value receipt => (receipt.1, value)] ("", "")

-- A mail is sent once the service returns a receipt.
def isSuccess : MailReply → Bool
  | answer status body =>
    !(400 ≤ status && status < 600) &&
      (Json.document receiptReader (Bytes.ofString body)).toBool
  | close => false

end MailReply

namespace Notification

def toJson : Notification → String
  | activationLink contact link fingerprint =>
    Json.object [("message", Json.quote "activation link"), ("contact", Json.quote contact),
      ("link", Json.quote link), ("fingerprint", Json.quote fingerprint)]
  | confirmation contact =>
    Json.object [("message", Json.quote "activation confirmed"), ("contact", Json.quote contact)]

end Notification

end Enrolment
