set_option autoImplicit false

namespace Enrolment

-- Unix time. The nanoseconds count forward from the second, also before 1970.
structure Instant where
  seconds : Int
  nanos : Nat
  nanos_lt : nanos < 1000000000 := by decide
  deriving DecidableEq

namespace Instant

def ofNanos (nanos : Int) : Instant :=
  ⟨nanos / 1000000000, (nanos % 1000000000).toNat, by omega⟩

def ofMillis (millis : Int) : Instant := ofNanos (millis * 1000000)

def millis (instant : Instant) : Int := instant.seconds * 1000 + (instant.nanos / 1000000 : Nat)

def addMillis (instant : Instant) (millis : Nat) : Instant :=
  ofNanos (instant.seconds * 1000000000 + instant.nanos + millis * 1000000)

end Instant

end Enrolment
