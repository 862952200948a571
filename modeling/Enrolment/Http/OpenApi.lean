import Enrolment.Json.Value

set_option autoImplicit false

namespace Enrolment.OpenApi

open Json (Value)

structure Info where
  title : String
  version : String
  description : String
  license : String
  deriving Repr, DecidableEq

def Info.value (info : Info) : Value :=
  .object [("title", .text info.title), ("description", .text info.description),
    ("license", .object [("name", .text info.license)]), ("version", .text info.version)]

def natural (value : Nat) : Value := .number (.natural value)

def reference (name : String) : Value :=
  .object [("$ref", .text ("#/components/schemas/" ++ name))]

def described (description : String) (members : List (String × Value)) : List (String × Value) :=
  ("description", .text description) :: members

def optionalText : List (String × Value) := [("type", .text "string"), ("nullable", .boolean true)]

def textLike (sample : String) : List (String × Value) :=
  [("type", .text "string"), ("example", .text sample)]

def count : List (String × Value) := [("type", .text "integer"), ("minimum", natural 0)]

def flag : List (String × Value) := [("type", .text "boolean")]

def listOf (name : String) : List (String × Value) :=
  [("type", .text "array"), ("items", reference name)]

def objectSchema (description : String) (required : List String)
    (properties : List (String × List (String × Value))) : Value :=
  .object (described description
    ([("type", .text "object"),
      ("properties", .object (properties.map fun (name, members) => (name, .object members)))] ++
    if required.isEmpty then [] else [("required", .list (required.map .text))]))

def exampleAddress : String := "3VfHtsBKQkKr7H2jB6CMvrnKekyJjpMZJA5kaPhQwjHh"
def exampleSponsor : String := "Akp1oyjY1VZGpsd8gwHBCkADe577eVhA4f8dASxVTm3s"
def exampleEmail : String := "john.doe@mailservice.com"
def exampleFingerprint : String :=
  "5719B140ABEFF9FD44DD610C4C0673A10FCEDCEB3A14F09FC69D90C93D63EAAF" ++
  "37A36E735290679C1E531FA3C5C08B8924FF738DA0D5F384493899CDDD1CF597"

def problemDescription : String :=
  "Encodes [JSONAPI error object responses](https://jsonapi.org/examples/#error-objects).\n\n" ++
  "JSONAPI error object -  ALL Fields are technically optional.\n\n" ++
  "This struct uses the following guidelines:\n\n" ++
  "1. Always encode the StatusCode of the response\n" ++
  "2. Set the title to the \x60canonical_reason\x60 of the status code.\n" ++
  "According to JSON:API, this should NOT change over time.\n" ++
  "3. Internal failures never carry a detail; the cause is logged instead."

def claimsDescription : String :=
  "What a candidate submits when joining the waitlist.\n\n" ++
  "The wire names (\x60address\x60, \x60email\x60, \x60sponsor\x60) are the ones embedded in\n" ++
  "issued tokens, so changing them invalidates every token in flight.\n\n" ++
  "Fields default to the empty string when missing, so that incomplete\n" ++
  "requests are reported per field by [\x60Validate\x60] rather than rejected as\n" ++
  "malformed JSON."

def schemas : List (String × Value) :=
  [("AppError", objectSchema problemDescription ["status"]
     [("status", [("type", .text "integer"), ("format", .text "int32"), ("minimum", natural 0),
        ("example", natural 409)]),
      ("detail", ("example", .text s!"identity {exampleAddress} is already a participant") ::
        optionalText),
      ("title", ("example", .text "Conflict") :: optionalText)]),
   ("ErrorResponse", objectSchema "Error in JSON API response format." ["errors"]
     [("errors", listOf "AppError")]),
   ("Claims", objectSchema claimsDescription []
     [("address", described "Opaque identity of the candidate, e.g. a wallet address"
        (textLike exampleAddress)),
      ("email", described "Where the activation link is sent" (textLike exampleEmail)),
      ("sponsor",
        described "Identity of an already accepted participant sponsoring the candidate"
          (textLike exampleSponsor))]),
   ("Participant", objectSchema "An activated candidate, as durably stored."
     ["address", "email", "uuid", "timestamp", "sponsor"]
     [("address", described "Identity of the participant" (textLike exampleAddress)),
      ("email", described "Contact address" (textLike exampleEmail)),
      ("uuid", described "Record identifier" (textLike "0b9c3a5e-1c48-4f8e-9fa5-3cf1f0d1e2a4")),
      ("timestamp", described "Activation instant, in unix milliseconds"
        [("type", .text "integer"), ("format", .text "int64"),
         ("example", natural 1647952128425)]),
      ("sponsor", described "Identity of the sponsoring participant"
        (textLike exampleSponsor))]),
   ("RegisterResponse", objectSchema "Response to a registration" ["fingerprint"]
     [("fingerprint", described "Fingerprint of the mailed token, required to activate"
        (textLike exampleFingerprint)),
      ("token", described "The token itself, only echoed in the local environment"
        optionalText)]),
   ("PresenceResponse", objectSchema "Whether an identity is a participant" ["registered"]
     [("registered", described "\x60true\x60 if the identity has been activated" flag)]),
   ("ParticipantList", objectSchema "A page of participants" ["participants", "count"]
     [("participants", described "Participants in activation order" (listOf "Participant")),
      ("count", described "Number of participants in this page" count)]),
   ("HealthResponse", objectSchema "Minimal liveness response" ["status"]
     [("status", textLike "ok")]),
   ("HealthcheckResponse",
     objectSchema "A healthcheck response containing diagnostic information for the service"
       ["store_reachable", "pending_notifications"]
       [("store_reachable", flag), ("pending_notifications", count)])]

def content (mediaType : String) (schema : Value) : Value :=
  .object [(mediaType, .object [("schema", schema)])]

def jsonContent (name : String) : Value := content "application/json" (reference name)

def answer (status description schema : String) : String × Value :=
  (status, .object (described description [("content", jsonContent schema)]))

def failure (status description : String) : String × Value :=
  answer status description "ErrorResponse"

def unauthorized : String × Value := failure "401" "Missing or wrong API key"

def throttled : String × Value := failure "429" "Too many requests"

def pathParameter (name description : String) : Value :=
  .object (described description [("name", .text name), ("in", .text "path"),
    ("required", .boolean true), ("schema", .object [("type", .text "string")])])

def queryParameter (name description : String) (schema : List (String × Value)) : Value :=
  .object (described description [("name", .text name), ("in", .text "query"),
    ("required", .boolean false), ("schema", .object schema)])

structure Operation where
  method : String
  path : String
  identifier : String
  tag : String
  summary : String
  parameters : List Value := []
  body : Option String := none
  isSecured : Bool := true
  answers : List (String × Value)

def Operation.value (operation : Operation) : Value :=
  let parameters := if operation.parameters.isEmpty then []
    else [("parameters", Value.list operation.parameters)]
  let body := match operation.body with
    | some schema => [("requestBody",
        Value.object [("content", jsonContent schema), ("required", .boolean true)])]
    | none => []
  let security := if operation.isSecured
    then [("security", Value.list [.object [("api_key", .list [])]])] else []
  .object ([("tags", .list [.text operation.tag]), ("summary", .text operation.summary),
      ("description", .text operation.summary), ("operationId", .text operation.identifier)] ++
    parameters ++ body ++ [("responses", .object operation.answers)] ++ security)

def operations : List Operation :=
  [{ method := "get", path := "/health", identifier := "health", tag := "health"
     summary := "GET handler for API liveness"
     answers := [answer "200" "Service up" "HealthResponse", unauthorized, throttled] },
   { method := "get", path := "/healthcheck", identifier := "healthcheck", tag := "health"
     summary := "GET handler for checking service health."
     isSecured := false
     answers := [answer "200" "waitlist-server healthy" "HealthcheckResponse",
       answer "503" "waitlist-server not healthy" "HealthcheckResponse"] },
   { method := "post", path := "/register", identifier := "register", tag := "waitlist"
     summary := "POST handler registering a candidate"
     body := some "Claims"
     answers := [answer "202" "Activation link on its way" "RegisterResponse",
       failure "400" "Invalid claims", unauthorized, throttled] },
   { method := "post", path := "/activate/\x7btoken\x7d/\x7bfingerprint\x7d"
     identifier := "activate", tag := "waitlist"
     summary := "POST handler activating the holder of a token"
     parameters := [pathParameter "token" "Token from the activation link",
       pathParameter "fingerprint" "Fingerprint returned at registration"]
     answers := [answer "201" "Participant created" "Participant",
       failure "401" "Bad token, fingerprint or API key",
       failure "409" "Identity already a participant",
       failure "412" "Referrer is not a participant", throttled] },
   { method := "get", path := "/check-wallet/\x7baddress\x7d"
     identifier := "check_wallet", tag := "waitlist"
     summary := "GET handler telling whether an identity is a participant"
     parameters := [pathParameter "address" "Identity to look up"]
     answers := [answer "200" "Participant" "PresenceResponse",
       answer "404" "Not a participant" "PresenceResponse"] },
   { method := "get", path := "/\x7bpath1\x7d/\x7bpath2\x7d/list"
     identifier := "list", tag := "participants"
     summary := "GET handler listing participants"
     parameters := [pathParameter "path1" "First secret segment",
       pathParameter "path2" "Second secret segment",
       queryParameter "offset" "Index of the first participant to return"
         (("nullable", .boolean true) :: count),
       queryParameter "max" "Maximum number of participants to return, requires \x60offset\x60"
         (("nullable", .boolean true) :: count),
       queryParameter "mime" "\x60json\x60 (default) or \x60csv\x60" optionalText]
     answers := [("200", .object (described "Participants as CSV"
         [("content", content "text/csv" (.object [("type", .text "string")]))])),
       failure "400" "Bad paging or format", failure "404" "Unknown path"] }]

def keyScheme : Value :=
  .object [("type", .text "apiKey"), ("in", .text "header"), ("name", .text "x-api-key")]

def document (info : Info) : Value :=
  let paths := operations.map fun operation =>
    (operation.path, Value.object [(operation.method, operation.value)])
  .object [("openapi", .text "3.0.3"), ("info", info.value), ("paths", .object paths),
    ("components", .object [("schemas", .object schemas),
      ("securitySchemes", .object [("api_key", keyScheme)])])]

def ownInfo : Info :=
  ⟨"waitlist-server", "0.1.0", "HTTP service driving waitlist registration and activation",
    "Apache-2.0"⟩

end Enrolment.OpenApi
