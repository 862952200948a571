set_option autoImplicit false

namespace Enrolment

inductive Outcome
  | activated
  | unauthorized
  | conflict
  | unknownSponsor
  | failed
  deriving Repr, DecidableEq

def Outcome.label : Outcome → String
  | activated => "activated"
  | unauthorized => "unauthorized"
  | conflict => "conflict"
  | unknownSponsor => "unknown_referrer"
  | failed => "failed"

inductive Counter
  | registrations
  | activations (outcome : Outcome)
  | rejections
  | requests (method template : String) (status : Nat)
  deriving Repr, DecidableEq

namespace Counter

def labelled (name : String) (labels : List (String × String)) : String :=
  let texts := labels.map fun (label, value) => s!"{label}=\"{value}\""
  name ++ "\x7b" ++ ",".intercalate texts ++ "\x7d"

def text : Counter → String
  | registrations => "waitlist_registrations_total"
  | activations outcome => labelled "waitlist_activations_total" [("outcome", outcome.label)]
  | rejections => "waitlist_admission_rejections_total"
  | requests method template status =>
    labelled "http_requests_total"
      [("method", method), ("request_path", template), ("status", toString status)]

end Counter

structure Tally where
  counts : List (Counter × Nat) := []

namespace Tally

def read (tally : Tally) (counter : Counter) : Nat := (tally.counts.lookup counter).getD 0

def increment (counter : Counter) : List (Counter × Nat) → List (Counter × Nat)
  | [] => [(counter, 1)]
  | entry :: entries =>
    if entry.1 = counter then (counter, entry.2 + 1) :: entries
    else entry :: increment counter entries

def count (tally : Tally) (counter : Counter) : Tally := ⟨increment counter tally.counts⟩

theorem lookup_increment (counter other : Counter) (counts : List (Counter × Nat)) :
    ((increment counter counts).lookup other).getD 0 =
      (counts.lookup other).getD 0 + if other = counter then 1 else 0 := by
  induction counts with
  | nil =>
    by_cases same : other = counter
    · simp [increment, same]
    · simp [increment, List.lookup_cons, beq_false_of_ne same, same]
  | cons entry entries ih =>
    rcases entry with ⟨known, number⟩
    by_cases here : known = counter
    · rw [increment, if_pos here, ← here]
      by_cases same : other = known
      · simp [same]
      · simp [List.lookup_cons, beq_false_of_ne same, same]
    · rw [increment, if_neg here]
      by_cases first : other = known
      · simp [first, here]
      · simp [List.lookup_cons, beq_false_of_ne first, ih]

theorem read_count (tally : Tally) (counter other : Counter) :
    (tally.count counter).read other = tally.read other + if other = counter then 1 else 0 :=
  lookup_increment counter other tally.counts

end Tally

end Enrolment
