import Enrolment.Claims
import Enrolment.Hash.Keccak
import Enrolment.Instant
import Enrolment.Token.Key

set_option autoImplicit false

namespace Enrolment

namespace Token

structure Header where
  algorithm : String := ""
  kind : String := ""
  deriving Repr, DecidableEq

structure Payload where
  claims : Claims := {}
  issuer : String := ""
  expiry : Int := 0
  notBefore : Int := 0
  issuedAt : Int := 0
  deriving Repr, DecidableEq

def Header.fields : List (Json.Field Header) :=
  [.required "alg" Json.text fun value header => { header with algorithm := value },
   .defaulted "typ" Json.text fun value header => { header with kind := value }]

def Header.reader : Json.Reader Header := Json.record Header.fields {}

def Header.toJson (header : Header) : String :=
  Json.object [("alg", Json.quote header.algorithm), ("typ", Json.quote header.kind)]

def claimField (name : String) (set : String → Claims → Claims) : Json.Field Payload :=
  .defaulted name Json.text fun value payload => { payload with claims := set value payload.claims }

def Payload.fields : List (Json.Field Payload) :=
  [claimField "address" fun value claims => { claims with address := value },
   claimField "email" fun value claims => { claims with email := value },
   claimField "sponsor" fun value claims => { claims with sponsor := value },
   .required "iss" Json.text fun value payload => { payload with issuer := value },
   .required "exp" Json.integer fun value payload => { payload with expiry := value },
   .required "nbf" Json.integer fun value payload => { payload with notBefore := value },
   .required "iat" Json.integer fun value payload => { payload with issuedAt := value }]

def Payload.reader : Json.Reader Payload := Json.record Payload.fields {}

def Payload.toJson (payload : Payload) : String :=
  Json.object [("address", Json.quote payload.claims.address),
    ("email", Json.quote payload.claims.email), ("sponsor", Json.quote payload.claims.sponsor),
    ("iss", Json.quote payload.issuer), ("exp", Json.integerText payload.expiry),
    ("nbf", Json.integerText payload.notBefore), ("iat", Json.integerText payload.issuedAt)]

def segment (json : String) : List Char :=
  Base64.encodeChars Base64.urlSafe (Bytes.ofString json)

def segmentBytes? (segment : List Char) : Option Bytes :=
  Base64.read? Base64.urlSafe (Bytes.ofString (String.ofList segment))

def readSegment? {α : Type} (reader : Json.Reader α) (segment : List Char) : Option α := do
  let bytes ← segmentBytes? segment
  (Json.document reader bytes).toOption

def isSegmentChar (char : Char) : Bool :=
  isAsciiLetter char || isAsciiDigit char || char = '-' || char = '_'

def isWellFormed (token : String) : Bool :=
  match splitAt '.' token.toList with
  | [header, payload, signature] =>
    !header.isEmpty && !payload.isEmpty && header.all isSegmentChar &&
      payload.all isSegmentChar && signature.all isSegmentChar
  | _ => false

-- The digest of a token that has to come with it. It authorizes nothing by itself.
def fingerprint (token : String) : String :=
  Hex.encodeUpper (Keccak.sha3_512 (Bytes.ofString token))

inductive Rejection
  | notThreeSegments
  | malformedHeader
  | foreignAlgorithm
  | malformedSignature
  | badSignature
  | malformedPayload
  | foreignIssuer
  | notYetValid
  | expired
  | incompleteClaims
  deriving Repr, DecidableEq

def Rejection.text : Rejection → String
  | notThreeSegments => "not three segments"
  | malformedHeader => "malformed header"
  | foreignAlgorithm => "foreign algorithm"
  | malformedSignature => "malformed signature"
  | badSignature => "bad signature"
  | malformedPayload => "malformed payload"
  | foreignIssuer => "foreign issuer"
  | notYetValid => "not yet valid"
  | expired => "expired"
  | incompleteClaims => "incomplete claims"

-- What clients are told, whatever the reason.
def Rejection.message (_ : Rejection) : String := "invalid token"

inductive Fault
  | signing
  deriving Repr, DecidableEq

def Fault.message : Fault → String
  | signing => "token signing failed"

def contents? (token : String) : Option (Header × Payload) :=
  match splitAt '.' token.toList with
  | [header, payload, _] => do
    return (← readSegment? Header.reader header, ← readSegment? Payload.reader payload)
  | _ => none

end Token

structure TokenService where
  algorithm : Algorithm
  key : SigningKey
  issuer : String := "waitlist"
  -- Seconds that a token stays live.
  window : Nat := 600

namespace TokenService

open Token

-- The 64-bit word of an integer, read as signed.
def toInt64 (value : Int) : Int := Int.bmod value UInt64.size

def expiry (service : TokenService) (issuedAt : Int) : Int :=
  toInt64 (issuedAt + toInt64 service.window)

def payload (service : TokenService) (claims : Claims) (now : Instant) : Payload where
  claims := claims
  issuer := service.issuer
  expiry := service.expiry now.seconds
  notBefore := now.seconds
  issuedAt := now.seconds

def header (service : TokenService) : Header := ⟨service.algorithm.name, "JWT"⟩

def signingInput (service : TokenService) (claims : Claims) (now : Instant) : List Char :=
  segment service.header.toJson ++ '.' :: segment (service.payload claims now).toJson

def create (service : TokenService) (entropy : Bytes) (claims : Claims) (now : Instant) : String :=
  let input := service.signingInput claims now
  let signature := service.key.sign entropy (Bytes.ofString (String.ofList input))
  String.ofList (input ++ '.' :: Base64.encodeChars Base64.urlSafe signature)

def issue (service : TokenService) (entropy : Bytes) (claims : Claims) (now : Instant) :
    Except Fault String :=
  if service.key.canSign entropy then .ok (service.create entropy claims now) else .error .signing

def judge (service : TokenService) (payload : Payload) (now : Int) : Except Rejection Claims := do
  if payload.issuer ≠ service.issuer then throw .foreignIssuer
  if now < payload.notBefore ∨ now < payload.issuedAt then throw .notYetValid
  if payload.expiry ≤ now then throw .expired
  if payload.claims.isComplete then return payload.claims else throw .incompleteClaims

def authenticate (service : TokenService) (token : String) : Except Rejection Payload :=
  match splitAt '.' token.toList with
  | [headerText, payloadText, signatureText] => do
    match readSegment? Header.reader headerText with
    | none => throw .malformedHeader
    | some header =>
      if header.algorithm ≠ service.algorithm.name then throw .foreignAlgorithm
      let input := headerText ++ '.' :: payloadText
      match segmentBytes? signatureText with
      | none => throw .malformedSignature
      | some signature =>
        if !service.key.verify (Bytes.ofString (String.ofList input)) signature then
          throw .badSignature
        match readSegment? Payload.reader payloadText with
        | none => throw .malformedPayload
        | some payload => return payload
  | _ => throw .notThreeSegments

def extract (service : TokenService) (token : String) (now : Instant) : Except Rejection Claims := do
  let payload ← service.authenticate token
  service.judge payload now.seconds

end TokenService

end Enrolment
