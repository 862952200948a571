set_option autoImplicit false

namespace Enrolment

class Amount (ν : Type) where
  ofCount : Nat → ν
  -- A duration of so many nanoseconds, in seconds.
  ofNanos : Nat → ν
  plus : ν → ν → ν
  minus : ν → ν → ν
  times : ν → ν → ν
  least : ν → ν → ν
  covers : ν → ν → Bool
  -- Whether a number is finite and above zero.
  isPositive : ν → Bool

instance : Amount Float where
  ofCount := Float.ofNat
  ofNanos nanos := Float.ofNat (nanos / 1000000000) + Float.ofNat (nanos % 1000000000) / 1e9
  plus := (· + ·)
  minus := (· - ·)
  times := (· * ·)
  least left right :=
    if left.isNaN then right else if right.isNaN then left else if right < left then right else left
  covers left right := right ≤ left
  isPositive number := number.isFinite && 0 < number

instance : Amount Rat where
  ofCount count := count
  ofNanos nanos := nanos / 1000000000
  plus := (· + ·)
  minus := (· - ·)
  times := (· * ·)
  least left right := if right < left then right else left
  covers left right := right ≤ left
  isPositive number := 0 < number

structure Quota (ν : Type) where
  rate : ν
  burst : Nat

def Quota.standard : Quota Float := ⟨0.1, 10⟩

-- Times are nanoseconds after a common origin.
structure Bucket (ν : Type) where
  balance : ν
  lastRefill : Nat
  lastAccess : Nat

namespace Bucket

variable {ν : Type} [Amount ν]

def full (quota : Quota ν) (now : Nat) : Bucket ν := ⟨Amount.ofCount quota.burst, now, now⟩

-- The balance after a refill; a time before the last refill refills nothing.
def refilled (quota : Quota ν) (bucket : Bucket ν) (now : Nat) : ν :=
  Amount.least
    (Amount.plus bucket.balance
      (Amount.times (Amount.ofNanos (now - bucket.lastRefill)) quota.rate))
    (Amount.ofCount quota.burst)

def take (quota : Quota ν) (bucket : Bucket ν) (now : Nat) : Bool × Bucket ν :=
  let balance := bucket.refilled quota now
  if Amount.covers balance (Amount.ofCount 1) then
    (true, ⟨Amount.minus balance (Amount.ofCount 1), now, now⟩)
  else (false, ⟨balance, now, now⟩)

end Bucket

end Enrolment
