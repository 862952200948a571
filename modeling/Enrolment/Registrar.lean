import Enrolment.Described
import Enrolment.Outbox
import Enrolment.Presence
import Enrolment.Store.Statement
import Enrolment.Tally
import Enrolment.Token.Service
import Enrolment.Url.Reading

set_option autoImplicit false

namespace Enrolment

def TokenService.described (service : TokenService) : String :=
  Described.partly "TokenService" [("algorithm", service.algorithm.name),
    ("issuer", Quoted.encode service.issuer), ("window", Described.seconds service.window)]

structure Draw where
  now : Instant
  entropy : Bytes

-- The nonce is drawn behind the bytes of an identifier.
def Draw.nonce (draw : Draw) : Nonce where
  bytes := ((draw.entropy.drop 16).rightpad Gcm.nonceSize 0).take Gcm.nonceSize
  size := by simp [List.rightpad]; omega

structure Registration where
  fingerprint : String
  token : String

structure Registrar where
  tokens : TokenService
  -- The start of every link.
  base : Url
  store : Store
  presence : Presence := {}
  outbox : Outbox := {}
  tally : Tally := {}

namespace Registrar

def counted (registrar : Registrar) (counter : Counter) : Registrar :=
  { registrar with tally := registrar.tally.count counter }

def posted (registrar : Registrar) (notification : Notification) : Registrar :=
  { registrar with outbox := registrar.outbox.post notification }

def described (registrar : Registrar) : String :=
  Described.partly "Registrar" [("tokens", registrar.tokens.described),
    ("presence", toString registrar.presence.size), ("tasks", ".."),
    ("activation_base_url", Quoted.encode registrar.base.text)]

def linkTo (base : List Char) (token fingerprint : String) : String :=
  let start := (base.reverse.dropWhile (· = '/')).reverse
  String.ofList start ++ "/activate/" ++ token ++ "/" ++ fingerprint

-- Issues a token for claims and posts the link. Registering again issues another token.
def register (registrar : Registrar) (draw : Draw) (claims : Claims) :
    Except RegistrationError Registration × Registrar :=
  match claims.violations with
  | [] =>
    match registrar.tokens.issue draw.entropy claims draw.now with
    | .ok token =>
      let fingerprint := Token.fingerprint token
      let link := linkTo registrar.base.chars token fingerprint
      (.ok ⟨fingerprint, token⟩,
        (registrar.posted (.activationLink claims.email link fingerprint)).counted .registrations)
    | .error fault => (.error (.unavailable (.text fault.message)), registrar)
  | violations => (.error (.invalid violations), registrar)

inductive Activation
  | lookingUpAddress (claims : Claims)
  | lookingUpSponsor (claims : Claims)
  | inserting (participant : Participant)
  -- The row is written, and its reply is still to come.
  | inserted (participant : Participant)
  | finished (result : Except RegistrationError Participant)

def outcome : Except RegistrationError Participant → Outcome
  | .ok _ => .activated
  | .error .unauthorized => .unauthorized
  | .error (.conflict _) => .conflict
  | .error (.unknownSponsor _) => .unknownSponsor
  | .error _ => .failed

def isPresentable (token fingerprint : String) : Bool :=
  Token.isWellFormed token && Token.fingerprint token == fingerprint

def authorize (registrar : Registrar) (now : Instant) (token fingerprint : String) :
    Except RegistrationError Claims :=
  if isPresentable token fingerprint then
    match registrar.tokens.extract token now with
    | .ok claims => .ok claims
    | .error _ => .error .unauthorized
  else .error .unauthorized

def rejection? (registrar : Registrar) (now : Instant) (token fingerprint : String) :
    Option Token.Rejection :=
  if isPresentable token fingerprint then
    match registrar.tokens.extract token now with
    | .ok _ => none
    | .error rejection => some rejection
  else none

def conclude (registrar : Registrar) (result : Except RegistrationError Participant) :
    Activation × Registrar :=
  (.finished result, registrar.counted (.activations (outcome result)))

def beginActivation (registrar : Registrar) (now : Instant) (token fingerprint : String) :
    Activation × Registrar :=
  match registrar.authorize now token fingerprint with
  | .ok claims => (.lookingUpAddress claims, registrar)
  | .error error => registrar.conclude (.error error)

def advance (registrar : Registrar) (draw : Draw) : Activation → Activation × Registrar
  | .lookingUpAddress claims =>
    let (found, store) := registrar.store.lookUp claims.address
    let registrar := { registrar with store }
    match found with
    | .ok true => registrar.conclude (.error (.conflict claims.address))
    | .ok false => (.lookingUpSponsor claims, registrar)
    | .error error => registrar.conclude (.error (.ofStoreError error))
  | .lookingUpSponsor claims =>
    let (found, store) := registrar.store.lookUp claims.sponsor
    let registrar := { registrar with store }
    match found with
    | .ok true =>
      (.inserting (Participant.ofClaims claims (Uuid.random draw.entropy) draw.now), registrar)
    | .ok false => registrar.conclude (.error (.unknownSponsor claims.sponsor))
    | .error error => registrar.conclude (.error (.ofStoreError error))
  | .inserting participant =>
    let (stored, store) := registrar.store.persist draw.nonce.bytes participant
    let registrar := { registrar with store }
    match stored with
    | .ok () => (.inserted participant, registrar)
    | .error error => registrar.conclude (.error (.ofStoreError error))
  | .inserted participant =>
    let presence := registrar.presence.add participant.address participant.activatedAt
    let registrar := { registrar with presence }
    (registrar.posted (.confirmation participant.email)).conclude (.ok participant)
  | .finished result => (.finished result, registrar)

-- The end of the statement that an activation has put, once nobody waits for it any more. A write
-- is done all the same.
def finishStatement (registrar : Registrar) (draw : Draw) : Activation → Activation × Registrar
  | .inserting participant =>
    let (stored, store) := registrar.store.persist draw.nonce.bytes participant
    let registrar := { registrar with store }
    match stored with
    | .ok () => (.inserted participant, registrar)
    | .error _ => (.inserting participant, registrar)
  | activation => (activation, registrar)

def run (draw : Draw) : Nat → Activation × Registrar → Activation × Registrar
  | 0, state => state
  | steps + 1, (activation, registrar) => run draw steps (registrar.advance draw activation)

def activate (registrar : Registrar) (draw : Draw) (token fingerprint : String) :
    Except RegistrationError Participant × Registrar :=
  match run draw 4 (registrar.beginActivation draw.now token fingerprint) with
  | (.finished result, registrar) => (result, registrar)
  | (_, registrar) => (.error .unauthorized, registrar)

def isPresent (registrar : Registrar) (address : String) : Bool :=
  registrar.presence.contains address

def presenceOf (participants : List Participant) : Presence :=
  Presence.ofList (participants.map fun participant => (participant.address, participant.activatedAt))

def warm (registrar : Registrar) : Except StoreError (Nat × Registrar) := do
  let presence := presenceOf (← registrar.store.list none none)
  return (presence.size, { registrar with presence })

def settle (registrar : Registrar) : Registrar :=
  { registrar with outbox := registrar.outbox.settle }

def drain (registrar : Registrar) : Bool × Registrar :=
  let registrar := { registrar with outbox := registrar.outbox.close }.settle
  (registrar.outbox.emptied, { registrar with outbox := registrar.outbox.reopen })

end Registrar

end Enrolment
