import Enrolment.Curve.Ecdsa
import Enrolment.Text.Base64

set_option autoImplicit false

namespace Enrolment.KeyDocument

inductive Fault
  -- Not a well-formed document, or one without the public key.
  | invalidEncoding
  | versionNotSupported
  | wrongAlgorithm
  -- The secret scalar has the wrong size or lies out of range.
  | invalidComponent
  -- The public key belongs to another secret.
  | inconsistentComponents
  deriving Repr, DecidableEq

def Fault.name : Fault → String
  | invalidEncoding => "InvalidEncoding"
  | versionNotSupported => "VersionNotSupported"
  | wrongAlgorithm => "WrongAlgorithm"
  | invalidComponent => "InvalidComponent"
  | inconsistentComponents => "InconsistentComponents"

inductive Tag
  | integer
  | bitString
  | octetString
  | sequence
  | context0
  | context1

def Tag.code : Tag → UInt8
  | integer => 0x02
  | bitString => 0x03
  | octetString => 0x04
  | sequence => 0x30
  | context0 => 0xA0
  | context1 => 0xA1

def readLength : Bytes → Option (Nat × Bytes)
  | [] => none
  | first :: rest =>
    if first < 0x80 then some (first.toNat, rest)
    else
      match first, rest with
      | 0x81, a :: rest => if a < 0x80 then none else some (a.toNat, rest)
      | 0x82, a :: b :: rest =>
        let length := a.toNat * 256 + b.toNat
        if length < 256 then none else some (length, rest)
      | _, _ => none

def element (tag : Tag) (bytes : Bytes) : Except Fault (Bytes × Bytes) :=
  match bytes with
  | [] => .error .invalidEncoding
  | code :: rest =>
    match readLength rest with
    | none => .error .invalidEncoding
    | some (length, rest) =>
      if code = tag.code && length ≤ rest.length then .ok (rest.take length, rest.drop length)
      else .error .invalidEncoding

def smallInteger (bytes : Bytes) : Except Fault (UInt8 × Bytes) := do
  let (contents, rest) ← element .integer bytes
  match contents with
  | [value] => if value < 0x80 then return (value, rest) else throw .invalidEncoding
  | [0, value] => if value < 0x80 then throw .invalidEncoding else return (value, rest)
  | _ => throw .invalidEncoding

def requireEnd (bytes : Bytes) : Except Fault Unit :=
  if bytes.isEmpty then .ok () else .error .invalidEncoding

def curveKeyOid : Bytes := [0x06, 0x07, 0x2a, 0x86, 0x48, 0xce, 0x3d, 0x02, 0x01]

structure Expected where
  scheme : Ecdsa.Scheme
  curveOid : Bytes

def p256 : Expected :=
  ⟨Ecdsa.p256Sha256, [0x06, 0x08, 0x2a, 0x86, 0x48, 0xce, 0x3d, 0x03, 0x01, 0x07]⟩

def p384 : Expected := ⟨Ecdsa.p384Sha384, [0x06, 0x05, 0x2b, 0x81, 0x04, 0x00, 0x22]⟩

def startsWithTag (tag : Tag) (bytes : Bytes) : Bool := bytes.head? = some tag.code

def innerKey (expected : Expected) (document : Bytes) : Except Fault Bytes := do
  let (outer, rest) ← element .sequence document
  let (version, body) ← smallInteger outer
  let (algorithm, body) ← element .sequence body
  if algorithm ≠ curveKeyOid ++ expected.curveOid then throw .wrongAlgorithm
  if version ≠ 0 then throw .versionNotSupported
  let (key, body) ← element .octetString body
  let body ← if startsWithTag .context0 body then (·.2) <$> element .context0 body else pure body
  requireEnd body
  requireEnd rest
  return key

def components (expected : Expected) (key : Bytes) : Except Fault (Bytes × Bytes) := do
  let (body, rest) ← element .sequence key
  let (version, body) ← smallInteger body
  if version ≠ 1 then throw .versionNotSupported
  let (secret, body) ← element .octetString body
  let body ←
    if startsWithTag .context0 body then do
      let (parameters, body) ← element .context0 body
      if parameters ≠ expected.curveOid then throw .wrongAlgorithm
      pure body
    else pure body
  let (wrapped, body) ← element .context1 body
  let (bits, afterBits) ← element .bitString wrapped
  match bits with
  | 0 :: publicPoint =>
    requireEnd afterBits
    requireEnd body
    requireEnd rest
    return (secret, publicPoint)
  | _ => throw .invalidEncoding

def read (expected : Expected) (document : Bytes) : Except Fault Ecdsa.KeyPair := do
  let key ← innerKey expected document
  let (secret, publicPoint) ← components expected key
  if secret.length ≠ expected.scheme.curve.size then throw .invalidComponent
  match expected.scheme.keyPair? (Bytes.toNat secret) with
  | none => throw .invalidComponent
  | some pair =>
    if expected.scheme.publicBytes pair = publicPoint then return pair
    else throw .inconsistentComponents

end Enrolment.KeyDocument
