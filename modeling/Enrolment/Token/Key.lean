import Enrolment.Token.Algorithm
import Enrolment.Token.KeyDocument

set_option autoImplicit false

namespace Enrolment

inductive SigningKey
  | shared (function : HashFunction) (secret : Bytes)
  | elliptic (scheme : Ecdsa.Scheme) (pair : Ecdsa.KeyPair)

inductive KeyFault
  -- The algorithm does not belong to the family of the key.
  | mismatch (algorithm : Algorithm)
  | emptySecret
  | armour (fault : Base64.Fault)
  | document (fault : KeyDocument.Fault)
  deriving Repr, DecidableEq

namespace KeyFault

def reason : KeyFault → String
  | mismatch _ => ""
  | emptySecret => "HMAC secret is empty"
  | armour fault => s!"invalid PEM: {fault.message}"
  | document fault => fault.name

def message : KeyFault → String
  | mismatch algorithm => s!"{algorithm.name} cannot be used with this kind of key"
  | fault => s!"signing key rejected: {fault.reason}"

end KeyFault

namespace SigningKey

def ofSecret (algorithm : Algorithm) (secret : Bytes) : Except KeyFault SigningKey :=
  let withFunction (function : HashFunction) : Except KeyFault SigningKey :=
    if secret.isEmpty then .error .emptySecret else .ok (.shared function secret)
  match algorithm with
  | .hs256 => withFunction .sha256
  | .hs512 => withFunction .sha512
  | .es256 | .es384 => .error (.mismatch algorithm)

def expected? : Algorithm → Option KeyDocument.Expected
  | .es256 => some KeyDocument.p256
  | .es384 => some KeyDocument.p384
  | .hs256 | .hs512 => none

def ofDocument (algorithm : Algorithm) (document : Bytes) : Except KeyFault SigningKey :=
  match expected? algorithm with
  | none => .error (.mismatch algorithm)
  | some expected =>
    match KeyDocument.read expected document with
    | .ok pair => .ok (.elliptic expected.scheme pair)
    | .error fault => .error (.document fault)

def lines (chars : List Char) : List (List Char) :=
  let parts := splitAt '\n' chars
  let parts := if parts.getLast? = some [] then parts.dropLast else parts
  parts.map fun line => if line.getLast? = some '\r' then line.dropLast else line

def armourBody (armoured : String) : List Char :=
  ((lines armoured.toList).map trimBlanks).flatMap fun line =>
    if line.take 5 = ['-', '-', '-', '-', '-'] then [] else line

def ofArmoured (algorithm : Algorithm) (armoured : String) : Except KeyFault SigningKey :=
  match Base64.decode Base64.standard (Bytes.ofString (String.ofList (armourBody armoured))) with
  | .ok document => ofDocument algorithm document
  | .error fault => .error (.armour fault)

def generate (algorithm : Algorithm) (entropy : Bytes) : Except KeyFault SigningKey :=
  match expected? algorithm with
  | none => ofSecret algorithm (HashFunction.sha512.hash entropy)
  | some expected =>
    match expected.scheme.keyPair? (expected.scheme.scalarFrom entropy) with
    | some pair => .ok (.elliptic expected.scheme pair)
    | none => .error (.document .invalidComponent)

inductive Material
  | secret (secret : Bytes)
  | armoured (text : String)
  | document (document : Bytes)
  | fresh (entropy : Bytes)

def ofMaterial (algorithm : Algorithm) : Material → Except KeyFault SigningKey
  | .secret secret => ofSecret algorithm secret
  | .armoured text => ofArmoured algorithm text
  | .document document => ofDocument algorithm document
  | .fresh entropy => generate algorithm entropy

def sign (key : SigningKey) (entropy message : Bytes) : Bytes :=
  match key with
  | shared function secret => Hmac.tag function secret message
  | elliptic scheme pair => scheme.sign pair entropy message

-- A key of a curve signs at random. The system gives no bytes at all if it has none to give.
def canSign : SigningKey → Bytes → Bool
  | shared .., _ => true
  | elliptic .., entropy => !entropy.isEmpty

def verify (key : SigningKey) (message signature : Bytes) : Bool :=
  match key with
  | shared function secret => Hmac.tag function secret message = signature
  | elliptic scheme pair => scheme.verify pair message signature

end SigningKey

end Enrolment
