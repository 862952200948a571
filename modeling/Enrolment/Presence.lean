import Enrolment.Instant

set_option autoImplicit false

namespace Enrolment

structure Presence where
  entries : List (String × Instant) := []

namespace Presence

def firstSeen? (presence : Presence) (address : String) : Option Instant :=
  presence.entries.lookup address

def contains (presence : Presence) (address : String) : Bool :=
  (presence.firstSeen? address).isSome

def size (presence : Presence) : Nat := presence.entries.length

def put (address : String) (firstSeen : Instant) :
    List (String × Instant) → List (String × Instant)
  | [] => [(address, firstSeen)]
  | entry :: entries =>
    if entry.1 = address then (address, firstSeen) :: entries
    else entry :: put address firstSeen entries

def add (presence : Presence) (address : String) (firstSeen : Instant) : Presence :=
  ⟨put address firstSeen presence.entries⟩

theorem lookup_put (address other : String) (firstSeen : Instant)
    (entries : List (String × Instant)) :
    (put address firstSeen entries).lookup other =
      if other = address then some firstSeen else entries.lookup other := by
  induction entries with
  | nil =>
    by_cases same : other = address
    · simp [put, same]
    · simp [put, List.lookup_cons, beq_false_of_ne same, same]
  | cons entry entries ih =>
    rcases entry with ⟨known, since⟩
    by_cases here : known = address
    · rw [put, if_pos here, ← here]
      by_cases same : other = known
      · simp [same]
      · simp [List.lookup_cons, beq_false_of_ne same, same]
    · rw [put, if_neg here]
      by_cases first : other = known
      · simp [first, here]
      · simp [List.lookup_cons, beq_false_of_ne first, ih]

theorem firstSeen?_add (presence : Presence) (address other : String) (firstSeen : Instant) :
    (presence.add address firstSeen).firstSeen? other =
      if other = address then some firstSeen else presence.firstSeen? other :=
  lookup_put address other firstSeen presence.entries

def ofList (entries : List (String × Instant)) : Presence :=
  entries.foldl (fun presence entry => presence.add entry.1 entry.2) {}

end Presence

end Enrolment
