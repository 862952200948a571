import Enrolment.Proofs.Limiter.Departures
import Enrolment.Proofs.Limiter.Spending
import Enrolment.Settings.Basic

set_option autoImplicit false

namespace Enrolment

namespace Limiter

variable {limiter : Limiter Rat} {now next : Nat}

theorem exists_window_of_events (events : List Event)
    (ordered : events.Pairwise fun earlier later => earlier.now ≤ later.now) (start stop : Nat) :
    ∃ early inside late, events = early ++ (inside ++ late) ∧
      (∀ event ∈ early, event.now < start) ∧
      (∀ event ∈ inside, start ≤ event.now ∧ event.now ≤ stop) ∧
      ∀ event ∈ late, stop < event.now := by
  obtain ⟨early, inside, late, parts, before, within, behind⟩ :=
    Bucket.exists_window (events.map Event.now) (List.pairwise_map.mpr ordered) start stop
  obtain ⟨first, rest, rfl, rfl, others⟩ := List.map_eq_append_iff.mp parts
  obtain ⟨middle, last, rfl, rfl, rfl⟩ := List.map_eq_append_iff.mp others
  simp only [List.forall_mem_map] at before within behind
  exact ⟨first, middle, last, rfl, before, within, behind⟩

theorem after_isUsed {events : List Event} (used : limiter.IsUsed now)
    (rate : 0 ≤ limiter.quota.rate)
    (ordered : events.Pairwise fun earlier later => earlier.now ≤ later.now)
    (within : ∀ event ∈ events, now ≤ event.now ∧ event.now ≤ next) (later : now ≤ next) :
    (limiter.after events).IsUsed next := by
  induction events generalizing limiter now with
  | nil => exact used.later later
  | cons event events ih =>
    obtain ⟨begun, ends⟩ := within event (by simp)
    have following := (List.pairwise_cons.mp ordered).1
    have quota : (limiter.happen event).quota = limiter.quota := by cases event <;> rfl
    exact ih ((used.later begun).happen rate) (quota ▸ rate) ordered.of_cons
      (fun other member => ⟨following other member, (within other (by simp [member])).2⟩) ends

def countWithin (start length : Nat) (instants : List Nat) : Nat :=
  instants.countP fun now => start ≤ now ∧ now ≤ start + length

section Counting

variable {start length : Nat} {instants : List Nat}

@[simp] theorem countWithin_append (start length : Nat) (earlier later : List Nat) :
    countWithin start length (earlier ++ later) =
      countWithin start length earlier + countWithin start length later :=
  List.countP_append

theorem countWithin_le (start length : Nat) (instants : List Nat) :
    countWithin start length instants ≤ instants.length :=
  List.countP_le_length

theorem countWithin_inside (inside : ∀ now ∈ instants, start ≤ now ∧ now ≤ start + length) :
    countWithin start length instants = instants.length :=
  List.countP_eq_length.mpr fun now member => by simpa using inside now member

theorem countWithin_outside (outside : ∀ now ∈ instants, now < start ∨ start + length < now) :
    countWithin start length instants = 0 := by
  apply List.countP_eq_zero.mpr
  intro now member
  have apart := outside now member
  simp only [decide_eq_true_eq]
  omega

theorem countWithin_admissions_outside (limiter : Limiter Rat) (client : String)
    {events : List Event}
    (outside : ∀ event ∈ events, event.now < start ∨ start + length < event.now) :
    countWithin start length (Visit.admissions (limiter.visitsOf client events)) = 0 := by
  apply countWithin_outside
  intro now member
  obtain ⟨event, among, rfl⟩ := limiter.mem_now_of_admissions client events member
  exact outside event among

theorem countWithin_departures_inside (limiter : Limiter Rat) (client : String)
    {events : List Event}
    (inside : ∀ event ∈ events, start ≤ event.now ∧ event.now ≤ start + length) :
    countWithin start length (limiter.departures client events) =
      (limiter.departures client events).length := by
  apply countWithin_inside
  intro now member
  obtain ⟨event, among, rfl⟩ := limiter.mem_now_of_departures client events member
  exact inside event among

end Counting

theorem admissions_within_le_of_departures (quota : Quota Rat) (client : String)
    {events : List Event} {idle : Nat} (rate : 0 ≤ quota.rate)
    (ordered : events.Pairwise fun earlier later => earlier.now ≤ later.now)
    (swept : ∀ other instant, .sweep other instant ∈ events → other = idle) (start length : Nat) :
    (countWithin start length (Visit.admissions (visitsOf client { quota } events)) : Rat) ≤
      quota.burst + quota.rate * Amount.ofNanos length +
        countWithin start length (departures client { quota } events) * quota.gap idle := by
  obtain ⟨early, inside, late, rfl, before, within, behind⟩ :=
    exists_window_of_events events ordered start (start + length)
  let limiter : Limiter Rat := after { quota } early
  have same : limiter.quota = quota := quota_after { quota } early
  have used : limiter.IsUsed start := by
    apply after_isUsed (IsUsed.new quota 0) rate (ordered.sublist (by simp)) _ (Nat.zero_le _)
    intro event member
    exact ⟨Nat.zero_le _, Nat.le_of_lt (before event member)⟩
  have spent := used.spend client (same ▸ rate) (ordered.sublist (by simp)) within
    fun other instant member => swept other instant (by simp [member])
  have capped := limiter.balance_le_burst client start
  rw [same, Nat.add_sub_cancel_left] at spent
  rw [same] at capped
  -- Nothing is let through early or late, and whoever is forgotten then only adds to the bound.
  have admitted : countWithin start length
      (Visit.admissions (visitsOf client { quota } (early ++ (inside ++ late)))) ≤
        (Visit.admissions (limiter.visitsOf client inside)).length := by
    rw [visitsOf_append, visitsOf_append, Visit.admissions_append, Visit.admissions_append,
      countWithin_append, countWithin_append,
      countWithin_admissions_outside _ client fun event member => .inl (before event member),
      countWithin_admissions_outside _ client fun event member => .inr (behind event member),
      Nat.zero_add, Nat.add_zero]
    exact countWithin_le _ _ _
  have departed : (limiter.departures client inside).length ≤
      countWithin start length (departures client { quota } (early ++ (inside ++ late))) := by
    rw [departures_append, departures_append, countWithin_append, countWithin_append,
      ← countWithin_departures_inside limiter client within]
    exact (Nat.le_add_right _ _).trans (Nat.le_add_left _ _)
  have gained := mul_le_mul_of_nonneg_right (Nat.cast_le (α := Rat).mpr departed)
    (quota.gap_nonneg idle)
  have counted := Nat.cast_le (α := Rat).mpr admitted
  linarith

end Limiter

namespace Settings.Limiter

variable (settings : Settings.Limiter Rat)

theorem ofNanos_idleNanos :
    (Amount.ofNanos settings.idleNanos : Rat) = settings.idleThreshold := by
  simp [Amount.ofNanos, idleNanos]

theorem rate_nonneg_of_accepted (enabled : settings.isEnabled = true)
    (accepted : settings.check = .ok ()) : 0 ≤ settings.rate := by
  unfold check at accepted
  rw [enabled] at accepted
  split at accepted
  · cases accepted
  split at accepted
  next disabled => cases disabled
  split at accepted
  · cases accepted
  next positive =>
    have above : 0 < settings.rate := by simpa [Amount.isPositive] using positive
    exact above.le

theorem admission_of_accepted (enabled : settings.isEnabled = true)
    (accepted : settings.check = .ok ()) :
    settings.admission = .ok (.perClient { quota := settings.quota }) := by
  simp [admission, accepted, enabled, bind, Except.bind, pure, Except.pure]

-- What settings make of a client's events.
def admitted (client : String) (events : List Limiter.Event) : List Nat :=
  Visit.admissions (Limiter.visitsOf client { quota := settings.quota } events)

def forgotten (client : String) (events : List Limiter.Event) : List Nat :=
  Limiter.departures client { quota := settings.quota } events

theorem admissions_le_of_accepted (enabled : settings.isEnabled = true)
    (accepted : settings.check = .ok ()) (events : List Limiter.Event)
    (ordered : events.Pairwise fun earlier later => earlier.now ≤ later.now)
    (swept : ∀ idle now, .sweep idle now ∈ events → idle = settings.idleNanos)
    (client : String) (start length : Nat) :
    settings.admission = .ok (.perClient { quota := settings.quota }) ∧
      (Limiter.countWithin start length (settings.admitted client events) : Rat) ≤
        settings.burst + settings.rate * Amount.ofNanos length +
          Limiter.countWithin start length (settings.forgotten client events) *
            max 0 (settings.burst - settings.rate * settings.idleThreshold) ∧
      ((settings.burst : Rat) ≤ settings.rate * settings.idleThreshold →
        (Limiter.countWithin start length (settings.admitted client events) : Rat) ≤
          settings.burst + settings.rate * Amount.ofNanos length) := by
  have rate := settings.rate_nonneg_of_accepted enabled accepted
  have bound := Limiter.admissions_within_le_of_departures settings.quota client rate ordered swept
    start length
  refine ⟨settings.admission_of_accepted enabled accepted, ?_, fun covers => ?_⟩
  · rw [Quota.gap, ofNanos_idleNanos] at bound
    exact bound
  · have covered : (settings.quota.burst : Rat) ≤
        settings.quota.rate * Amount.ofNanos settings.idleNanos := by
      rw [ofNanos_idleNanos]
      exact covers
    rwa [Quota.gap_eq_zero covered, mul_zero, add_zero] at bound

-- A bucket takes twenty-four seconds to refill.
def hasty : Settings.Limiter Rat where
  isEnabled := true
  rate := 1 / 8
  burst := 3
  sweepInterval := 1
  idleThreshold := 10

-- Three calls, and three more as soon as the client has been forgotten.
def rush : List Limiter.Event :=
  [.call "ann" 0, .call "ann" 0, .call "ann" 0, .sweep (10 * 10 ^ 9) (11 * 10 ^ 9),
    .call "ann" (11 * 10 ^ 9), .call "ann" (11 * 10 ^ 9), .call "ann" (11 * 10 ^ 9)]

theorem check_hasty : hasty.check = .ok () := by
  simp [check, hasty, Amount.isPositive]

theorem swept_rush (idle now : Nat) (member : .sweep idle now ∈ rush) : idle = hasty.idleNanos := by
  simp [rush] at member
  rw [member.1]
  rfl

theorem admissions_exceed_accepted :
    hasty.isEnabled = true ∧ hasty.check = .ok () ∧
      hasty.admission = .ok (.perClient { quota := hasty.quota }) ∧
      rush.Pairwise (fun earlier later => earlier.now ≤ later.now) ∧
      (∀ idle now, .sweep idle now ∈ rush → idle = hasty.idleNanos) ∧
      hasty.burst + hasty.rate * Amount.ofNanos (11 * 10 ^ 9) <
        (Limiter.countWithin 0 (11 * 10 ^ 9) (hasty.admitted "ann" rush) : Rat) :=
  ⟨rfl, check_hasty, hasty.admission_of_accepted rfl check_hasty, by decide +kernel, swept_rush,
    by decide +kernel⟩

theorem admissions_le_of_accepted_rush :
    hasty.admitted "ann" rush = [0, 0, 0, 11 * 10 ^ 9, 11 * 10 ^ 9, 11 * 10 ^ 9] ∧
      hasty.forgotten "ann" rush = [11 * 10 ^ 9] ∧
      (Limiter.countWithin 0 (11 * 10 ^ 9) (hasty.admitted "ann" rush) : Rat) ≤
        hasty.burst + hasty.rate * Amount.ofNanos (11 * 10 ^ 9) +
          Limiter.countWithin 0 (11 * 10 ^ 9) (hasty.forgotten "ann" rush) *
            max 0 (hasty.burst - hasty.rate * hasty.idleThreshold) := by
  obtain ⟨-, bound, -⟩ := hasty.admissions_le_of_accepted rfl check_hasty rush
    (by decide +kernel) swept_rush "ann" 0 (11 * 10 ^ 9)
  exact ⟨by decide +kernel, by decide +kernel, bound⟩

end Settings.Limiter

end Enrolment
