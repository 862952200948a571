import Enrolment.Curve.Group
import Enrolment.Hash.Hmac

set_option autoImplicit false

namespace Enrolment.Ecdsa

structure Scheme where
  curve : Curve
  hash : Bytes → Bytes

def p256Sha256 : Scheme := ⟨Curve.p256, HashFunction.sha256.hash⟩

def p384Sha384 : Scheme := ⟨Curve.p384, HashFunction.sha384.hash⟩

structure KeyPair where
  secret : Nat
  publicX : Nat
  publicY : Nat

namespace Scheme

variable (scheme : Scheme)

def keyPair? (secret : Nat) : Option KeyPair :=
  if 0 < secret && secret < scheme.curve.order then
    (scheme.curve.affine? (scheme.curve.multiply secret scheme.curve.base)).map
      fun (x, y) => ⟨secret, x, y⟩
  else none

def publicBytes (pair : KeyPair) : Bytes :=
  4 :: Bytes.ofNat scheme.curve.size pair.publicX ++ Bytes.ofNat scheme.curve.size pair.publicY

def scalarFrom (bytes : Bytes) : Nat :=
  Bytes.toNat (HashFunction.sha512.hash bytes) % (scheme.curve.order - 1) + 1

def messageScalar (message : Bytes) : Nat :=
  Bytes.toNat (scheme.hash message) % scheme.curve.order

def sign (pair : KeyPair) (entropy message : Bytes) : Bytes :=
  let order := scheme.curve.order
  let size := scheme.curve.size
  let once := scheme.scalarFrom (Bytes.ofNat size pair.secret ++ entropy ++ message)
  match scheme.curve.affine? (scheme.curve.multiply once scheme.curve.base) with
  | none => []
  | some (x, _) =>
    let r := x % order
    let s := inverseMod order once * (scheme.messageScalar message + r * pair.secret) % order
    Bytes.ofNat size r ++ Bytes.ofNat size s

-- Either half of the group is allowed for the second scalar.
def verify (pair : KeyPair) (message signature : Bytes) : Bool :=
  let order := scheme.curve.order
  let size := scheme.curve.size
  let r := Bytes.toNat (signature.take size)
  let s := Bytes.toNat (signature.drop size)
  signature.length = 2 * size && 0 < r && r < order && 0 < s && s < order &&
    let inverse := inverseMod order s
    let u1 := scheme.messageScalar message * inverse % order
    let u2 := r * inverse % order
    let sum := scheme.curve.add (scheme.curve.multiply u1 scheme.curve.base)
      (scheme.curve.multiply u2 ⟨pair.publicX, pair.publicY, 1⟩)
    match scheme.curve.affine? sum with
    | some (x, _) => x % order = r
    | none => false

end Scheme

end Enrolment.Ecdsa
