import Enrolment.Text.Bytes

set_option autoImplicit false

namespace Enrolment.Keccak

abbrev State := List UInt64

def lane (state : State) (x y : Nat) : UInt64 := state.getD (x % 5 + 5 * (y % 5)) 0

def tabulate (value : Nat → Nat → UInt64) : State :=
  (List.range 25).map fun index => value (index % 5) (index / 5)

def rotateLeft (word : UInt64) (amount : Nat) : UInt64 :=
  if amount % 64 = 0 then word
  else (word <<< UInt64.ofNat (amount % 64)) ||| (word >>> UInt64.ofNat (64 - amount % 64))

def column (state : State) (x : Nat) : UInt64 :=
  lane state x 0 ^^^ lane state x 1 ^^^ lane state x 2 ^^^ lane state x 3 ^^^ lane state x 4

def theta (state : State) : State :=
  let columns := (List.range 5).map (column state)
  let effect := (List.range 5).map fun x =>
    columns.getD ((x + 4) % 5) 0 ^^^ rotateLeft (columns.getD ((x + 1) % 5) 0) 1
  tabulate fun x y => lane state x y ^^^ effect.getD x 0

def walkAmounts : Nat → Nat → Nat → Nat → List (Nat × Nat)
  | 0, _, _, _ => []
  | steps + 1, step, x, y =>
    (x + 5 * y, (step + 1) * (step + 2) / 2 % 64) ::
      walkAmounts steps (step + 1) y ((2 * x + 3 * y) % 5)

def amounts : List Nat :=
  let walk := walkAmounts 24 0 1 0
  (List.range 25).map fun index => (walk.lookup index).getD 0

-- Rotates each lane and moves it from `(x, y)` to `(y, 2 x + 3 y)`.
def rhoPi (state : State) : State :=
  tabulate fun x y =>
    let source := (x + 3 * y) % 5
    rotateLeft (lane state source x) (amounts.getD (source + 5 * x) 0)

def chi (state : State) : State :=
  tabulate fun x y => lane state x y ^^^ (~~~lane state (x + 1) y &&& lane state (x + 2) y)

def stepRegister (register : Nat) : Nat :=
  let doubled := register * 2
  if doubled ≥ 256 then (doubled - 256) ^^^ 0x71 else doubled

def roundConstant : Nat → Nat → UInt64 → UInt64 × Nat
  | 0, register, constant => (constant, register)
  | bits + 1, register, constant =>
    let place := UInt64.ofNat (Nat.pow 2 (Nat.pow 2 (6 - bits) - 1))
    roundConstant bits (stepRegister register)
      (if register % 2 = 1 then constant ^^^ place else constant)

def roundConstants : Nat → Nat → List UInt64
  | 0, _ => []
  | rounds + 1, register =>
    let (constant, register) := roundConstant 7 register 0
    constant :: roundConstants rounds register

def constants : List UInt64 := roundConstants 24 1

def round (state : State) (constant : UInt64) : State :=
  match chi (rhoPi (theta state)) with
  | first :: rest => (first ^^^ constant) :: rest
  | [] => []

def permute (state : State) : State := constants.foldl round state

def lanes (block : Bytes) : State :=
  (List.range 25).map fun index =>
    UInt64.ofNat (Bytes.toNat ((block.drop (8 * index)).take 8).reverse)

def absorb (rate : Nat) : Nat → State → Bytes → State
  | 0, state, _ => state
  | count + 1, state, bytes =>
    absorb rate count (permute (List.zipWith (· ^^^ ·) state (lanes (bytes.take rate))))
      (bytes.drop rate)

-- The domain bits `01`, a one bit, zeros, and a one bit that ends the last block.
def padding (rate size : Nat) : Bytes :=
  let free := rate - size % rate
  if free = 1 then [0x86] else 0x06 :: List.replicate (free - 2) 0 ++ [0x80]

def digest (rate digestBytes : Nat) (message : Bytes) : Bytes :=
  let padded := message ++ padding rate message.length
  let state := absorb rate (padded.length / rate) (List.replicate 25 0) padded
  (state.flatMap fun word => (Bytes.ofNat 8 word.toNat).reverse).take digestBytes

def sha3_512 (message : Bytes) : Bytes := digest 72 64 message

end Enrolment.Keccak
