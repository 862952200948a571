import Enrolment.Text.Bytes

set_option autoImplicit false

namespace Enrolment

structure Curve where
  prime : Nat
  b : Nat
  order : Nat
  baseX : Nat
  baseY : Nat
  -- The bytes of a coordinate and of a scalar.
  size : Nat

namespace Curve

def p256 : Curve where
  prime := 0xffffffff00000001000000000000000000000000ffffffffffffffffffffffff
  b := 0x5ac635d8aa3a93e7b3ebbd55769886bc651d06b0cc53b0f63bce3c3e27d2604b
  order := 0xffffffff00000000ffffffffffffffffbce6faada7179e84f3b9cac2fc632551
  baseX := 0x6b17d1f2e12c4247f8bce6e563a440f277037d812deb33a0f4a13945d898c296
  baseY := 0x4fe342e2fe1a7f9b8ee7eb4a7c0f9e162bce33576b315ececbb6406837bf51f5
  size := 32

def p384 : Curve where
  prime := 0xfffffffffffffffffffffffffffffffffffffffffffffffffffffffffffffffeffffffff0000000000000000ffffffff
  b := 0xb3312fa7e23ee7e4988e056be3f82d19181d9c6efe8141120314088f5013875ac656398d8a2ed19d2a85c8edd3ec2aef
  order := 0xffffffffffffffffffffffffffffffffffffffffffffffffc7634d81f4372ddf581a0db248b0a77aecec196accc52973
  baseX := 0xaa87ca22be8b05378eb1c71ef320ad746e1d3b628ba79b9859f741e082542a385502f25dbf55296c3a545e3872760ab7
  baseY := 0x3617de4a96262c6f5d9e98bf9292dc29f8f41dbd289a147ce9da3113b5f0b8c00a60b1ce1d7e819d7a431d7c90ea0e5f
  size := 48

end Curve

def bitsOf : Nat → Nat → List Bool
  | 0, _ => []
  | count + 1, value => value.testBit count :: bitsOf count value

def powMod (modulus base exponent : Nat) : Nat :=
  (bitsOf (exponent.log2 + 1) exponent).foldl (fun power bit =>
    let square := power * power % modulus
    if bit then square * base % modulus else square) 1

def inverseMod (prime value : Nat) : Nat := powMod prime value (prime - 2)

-- The point `(x / z², y / z³)`, or the neutral element if `z` is zero.
structure JacobianPoint where
  x : Nat
  y : Nat
  z : Nat

namespace Curve

variable (curve : Curve)

def sub (left right : Nat) : Nat := (left + curve.prime - right % curve.prime) % curve.prime

def neutral : JacobianPoint := ⟨1, 1, 0⟩

def base : JacobianPoint := ⟨curve.baseX, curve.baseY, 1⟩

def double (point : JacobianPoint) : JacobianPoint :=
  let p := curve.prime
  if point.z = 0 then point
  else
    let ySquare := point.y * point.y % p
    let zSquare := point.z * point.z % p
    let s := 4 * point.x * ySquare % p
    let m := 3 * curve.sub point.x zSquare * (point.x + zSquare) % p
    let x := curve.sub (m * m) (2 * s)
    let y := curve.sub (m * curve.sub s x) (8 * ySquare * ySquare)
    ⟨x, y, 2 * point.y * point.z % p⟩

def add (left right : JacobianPoint) : JacobianPoint :=
  let p := curve.prime
  if left.z = 0 then right
  else if right.z = 0 then left
  else
    let leftSquare := left.z * left.z % p
    let rightSquare := right.z * right.z % p
    let u1 := left.x * rightSquare % p
    let u2 := right.x * leftSquare % p
    let s1 := left.y * rightSquare % p * right.z % p
    let s2 := right.y * leftSquare % p * left.z % p
    if u1 = u2 then
      if s1 = s2 then curve.double left else neutral
    else
      let h := curve.sub u2 u1
      let r := curve.sub s2 s1
      let hSquare := h * h % p
      let hCube := hSquare * h % p
      let v := u1 * hSquare % p
      let x := curve.sub (curve.sub (r * r) hCube) (2 * v)
      let y := curve.sub (r * curve.sub v x) (s1 * hCube)
      ⟨x, y, h * left.z % p * right.z % p⟩

def multiply (scalar : Nat) (point : JacobianPoint) : JacobianPoint :=
  (bitsOf (8 * curve.size) scalar).foldl (fun sum bit =>
    let doubled := curve.double sum
    if bit then curve.add doubled point else doubled) neutral

def affine? (point : JacobianPoint) : Option (Nat × Nat) :=
  let p := curve.prime
  if point.z % p = 0 then none
  else
    let inverse := inverseMod p point.z
    let square := inverse * inverse % p
    some (point.x * square % p, point.y * square % p * inverse % p)

end Curve

end Enrolment
