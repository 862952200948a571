import Enrolment.Text.Bytes

set_option autoImplicit false

namespace Enrolment.Sha2

structure Amounts where
  upper0 : Nat × Nat × Nat
  upper1 : Nat × Nat × Nat
  lower0 : Nat × Nat × Nat
  lower1 : Nat × Nat × Nat

structure Variant (width : Nat) where
  amounts : Amounts
  roundConstants : List (BitVec width)
  start : List (BitVec width)
  digestBytes : Nat

def primesBelow (limit : Nat) : List Nat :=
  (List.range limit).filter fun n => n ≥ 2 && (List.range n).all fun d => d < 2 || n % d != 0

def rootBits (power value : Nat) : Nat → Nat → Nat
  | 0, root => root
  | bits + 1, root =>
    let next := root + Nat.pow 2 bits
    if Nat.pow next power ≤ value then rootBits power value bits next else rootBits power value bits root

def rootFraction (width power value : Nat) : BitVec width :=
  BitVec.ofNat width (rootBits power (value * Nat.pow 2 (power * width)) (width + 8) 0)

def rootConstants (width power : Nat) (primes : List Nat) : List (BitVec width) :=
  primes.map (rootFraction width power)

def smallAmounts : Amounts := ⟨(2, 13, 22), (6, 11, 25), (7, 18, 3), (17, 19, 10)⟩

def largeAmounts : Amounts := ⟨(28, 34, 39), (14, 18, 41), (1, 8, 7), (19, 61, 6)⟩

def sha256 : Variant 32 where
  amounts := smallAmounts
  roundConstants := rootConstants 32 3 (primesBelow 312)
  start := rootConstants 32 2 (primesBelow 20)
  digestBytes := 32

def sha512 : Variant 64 where
  amounts := largeAmounts
  roundConstants := rootConstants 64 3 (primesBelow 410)
  start := rootConstants 64 2 (primesBelow 20)
  digestBytes := 64

def sha384 : Variant 64 where
  amounts := largeAmounts
  roundConstants := rootConstants 64 3 (primesBelow 410)
  start := rootConstants 64 2 ((primesBelow 54).drop 8)
  digestBytes := 48

section Mixing

variable {width : Nat}

def mixRotations (amounts : Nat × Nat × Nat) (word : BitVec width) : BitVec width :=
  word.rotateRight amounts.1 ^^^ word.rotateRight amounts.2.1 ^^^ word.rotateRight amounts.2.2

def mixShift (amounts : Nat × Nat × Nat) (word : BitVec width) : BitVec width :=
  word.rotateRight amounts.1 ^^^ word.rotateRight amounts.2.1 ^^^ (word >>> amounts.2.2)

def choose (x y z : BitVec width) : BitVec width := (x &&& y) ^^^ (~~~x &&& z)

def majority (x y z : BitVec width) : BitVec width := (x &&& y) ^^^ (x &&& z) ^^^ (y &&& z)

def words (wordBytes : Nat) : Nat → Bytes → List (BitVec width)
  | 0, _ => []
  | count + 1, bytes =>
    BitVec.ofNat width (Bytes.toNat (bytes.take wordBytes)) ::
      words wordBytes count (bytes.drop wordBytes)

def extendSchedule (amounts : Amounts) : Nat → List (BitVec width) → List (BitVec width)
  | 0, newest => newest
  | count + 1, newest =>
    let word := mixShift amounts.lower1 (newest.getD 1 0) + newest.getD 6 0 +
      mixShift amounts.lower0 (newest.getD 14 0) + newest.getD 15 0
    extendSchedule amounts count (word :: newest)

structure Working (width : Nat) where
  a : BitVec width
  b : BitVec width
  c : BitVec width
  d : BitVec width
  e : BitVec width
  f : BitVec width
  g : BitVec width
  h : BitVec width

def Working.ofList (words : List (BitVec width)) : Working width :=
  ⟨words.getD 0 0, words.getD 1 0, words.getD 2 0, words.getD 3 0,
    words.getD 4 0, words.getD 5 0, words.getD 6 0, words.getD 7 0⟩

def Working.toList (state : Working width) : List (BitVec width) :=
  [state.a, state.b, state.c, state.d, state.e, state.f, state.g, state.h]

def round (amounts : Amounts) (state : Working width) (constant word : BitVec width) :
    Working width :=
  let first := state.h + mixRotations amounts.upper1 state.e +
    choose state.e state.f state.g + constant + word
  let second := mixRotations amounts.upper0 state.a + majority state.a state.b state.c
  ⟨first + second, state.a, state.b, state.c, state.d + first, state.e, state.f, state.g⟩

def runRounds (amounts : Amounts) : List (BitVec width) → List (BitVec width) → Working width →
    Working width
  | constant :: constants, word :: words, state =>
    runRounds amounts constants words (round amounts state constant word)
  | _, _, state => state

def compress (variant : Variant width) (state : List (BitVec width)) (block : Bytes) :
    List (BitVec width) :=
  let first := words (width / 8) 16 block
  let schedule := (extendSchedule variant.amounts (variant.roundConstants.length - 16)
    first.reverse).reverse
  let mixed := runRounds variant.amounts variant.roundConstants schedule (Working.ofList state)
  List.zipWith (· + ·) state mixed.toList

def compressAll (variant : Variant width) : Nat → List (BitVec width) → Bytes →
    List (BitVec width)
  | 0, state, _ => state
  | count + 1, state, bytes =>
    let size := 2 * width
    compressAll variant count (compress variant state (bytes.take size)) (bytes.drop size)

def padding (width size : Nat) : Bytes :=
  let blockBytes := 2 * width
  let lengthBytes := width / 4
  let zeros := (blockBytes - (size + 1 + lengthBytes) % blockBytes) % blockBytes
  128 :: List.replicate zeros 0 ++ Bytes.ofNat lengthBytes (size * 8)

def hash (variant : Variant width) (message : Bytes) : Bytes :=
  let padded := message ++ padding width message.length
  let state := compressAll variant (padded.length / (2 * width)) variant.start padded
  (state.flatMap fun word => Bytes.ofNat (width / 8) word.toNat).take variant.digestBytes

end Mixing

end Enrolment.Sha2
