import Enrolment.Limiter.Bucket

set_option autoImplicit false

namespace Enrolment

structure Limiter (ν : Type) where
  quota : Quota ν
  buckets : List (String × Bucket ν) := []

namespace Limiter

variable {ν : Type}

def bucket? (limiter : Limiter ν) (client : String) : Option (Bucket ν) :=
  limiter.buckets.lookup client

def isTracked (limiter : Limiter ν) (client : String) : Bool := (limiter.bucket? client).isSome

def size (limiter : Limiter ν) : Nat := limiter.buckets.length

def put (client : String) (bucket : Bucket ν) :
    List (String × Bucket ν) → List (String × Bucket ν)
  | [] => [(client, bucket)]
  | entry :: entries =>
    if entry.1 = client then (client, bucket) :: entries else entry :: put client bucket entries

def allow [Amount ν] (limiter : Limiter ν) (client : String) (now : Nat) : Bool × Limiter ν :=
  let bucket := (limiter.bucket? client).getD (Bucket.full limiter.quota now)
  let (allowed, bucket) := bucket.take limiter.quota now
  (allowed, { limiter with buckets := put client bucket limiter.buckets })

def isIdle (idle now : Nat) (bucket : Bucket ν) : Bool := now - bucket.lastAccess > idle

def sweep (limiter : Limiter ν) (idle now : Nat) : Nat × Limiter ν :=
  let kept := limiter.buckets.filter fun entry => !isIdle idle now entry.2
  (limiter.buckets.length - kept.length, { limiter with buckets := kept })

end Limiter

inductive Admission (ν : Type)
  | unlimited
  | perClient (limiter : Limiter ν)

namespace Admission

variable {ν : Type}

def allow [Amount ν] (admission : Admission ν) (client : String) (now : Nat) :
    Bool × Admission ν :=
  match admission with
  | unlimited => (true, unlimited)
  | perClient limiter =>
    let (allowed, limiter) := limiter.allow client now
    (allowed, perClient limiter)

def sweep (admission : Admission ν) (idle now : Nat) : Nat × Admission ν :=
  match admission with
  | unlimited => (0, unlimited)
  | perClient limiter =>
    let (evicted, limiter) := limiter.sweep idle now
    (evicted, perClient limiter)

def size : Admission ν → Nat
  | unlimited => 0
  | perClient limiter => limiter.size

def isLimited : Admission ν → Bool
  | unlimited => false
  | perClient _ => true

end Admission

end Enrolment
