import Enrolment.Limiter.Sweeper
import Enrolment.Proofs.Limiter.Isolation

set_option autoImplicit false

namespace Enrolment

namespace Sweeper

def nextTick (interval span : Nat) : Nat := (span / interval + 1) * interval

-- The multiples of an interval that lie behind a start, up to and with the end of some time. An
-- interval of zero has none.
def ticks (interval start span : Nat) : List Nat :=
  (List.range (span / interval)).map fun number => start + (number + 1) * interval

def punctual (interval start span : Nat) : Sweeper where
  interval
  clock := start + span
  stage := some (if interval = 0 then .cancellation else .ticking (start + nextTick interval span))

variable {interval start span : Nat}

theorem lt_nextTick (positive : interval ≠ 0) : span < nextTick interval span := by
  have bound := Nat.lt_div_mul_add (a := span) (Nat.pos_of_ne_zero positive)
  rwa [nextTick, Nat.succ_mul]

theorem div_of_lt_nextTick {later : Nat} (le : span ≤ later) (early : later < nextTick interval span) :
    later / interval = span / interval := by
  rw [nextTick, Nat.mul_comm] at early
  exact Nat.le_antisymm (Nat.lt_succ_iff.mp (Nat.div_lt_of_lt_mul early)) (Nat.div_le_div_right le)

theorem nextTick_div (positive : interval ≠ 0) :
    nextTick interval span / interval = span / interval + 1 :=
  Nat.mul_div_cancel _ (Nat.pos_of_ne_zero positive)

theorem ticks_nextTick (positive : interval ≠ 0) :
    ticks interval start (nextTick interval span) =
      ticks interval start span ++ [start + nextTick interval span] := by
  rw [ticks, ticks, nextTick_div positive, List.range_succ, List.map_append]
  rfl

theorem turn_new (interval start : Nat) :
    ({ interval, clock := start } : Sweeper).turn = (false, punctual interval start 0) := by
  by_cases zero : interval = 0
  · simp [turn, stageNow, punctual, zero]
  · simp [turn, stageNow, punctual, nextTick, zero]

theorem turn_punctual (interval start span : Nat) :
    (punctual interval start span).turn = (false, punctual interval start span) := by
  by_cases zero : interval = 0
  · simp [turn, stageNow, punctual, zero]
  · simp [turn, stageNow, punctual, zero, Nat.not_le.mpr (lt_nextTick zero)]

theorem turn_at_tick (positive : interval ≠ 0) :
    ({ punctual interval start span with clock := start + nextTick interval span }).turn =
      (true, punctual interval start (nextTick interval span)) := by
  have next : nextTick interval (nextTick interval span) = nextTick interval span + interval := by
    rw [nextTick, nextTick_div positive, Nat.succ_mul]
    rfl
  simp [turn, stageNow, punctual, positive, next, Nat.add_assoc]

section Moves

variable {sweeper : Sweeper} {time : Nat} (swept : List Nat)

theorem moveTo_quiet (quiet : ∀ due, sweeper.stage = some (.ticking due) →
    sweeper.clock < due → time < due) :
    moveTo time swept sweeper = (swept, { sweeper with clock := time }) := by
  rw [moveTo]
  split
  next due waits =>
    rw [if_neg]
    rintro ⟨ahead, reached⟩
    exact Nat.not_lt.mpr reached (quiet due waits ahead)
  · rfl

theorem moveTo_tick {due : Nat} (waits : sweeper.stage = some (.ticking due))
    (ahead : sweeper.clock < due) (reached : due ≤ time) {later : Sweeper}
    (turned : ({ sweeper with clock := due } : Sweeper).turn = (true, later)) :
    moveTo time swept sweeper = moveTo time (due :: swept) later := by
  rw [waits] at turned
  rw [moveTo, waits]
  dsimp only
  rw [if_pos ⟨ahead, reached⟩, turned]
  rfl

end Moves

theorem moveTo_punctual (interval start : Nat) {later : Nat} (le : span ≤ later)
    (swept : List Nat) :
    ∃ sweeps, ticks interval start later = ticks interval start span ++ sweeps ∧
      moveTo (start + later) swept (punctual interval start span) =
        (sweeps.reverse ++ swept, punctual interval start later) := by
  induction left : later - span using Nat.strongRecOn generalizing span swept with
  | ind left ih =>
    by_cases zero : interval = 0
    case pos =>
      refine ⟨[], by simp [ticks, zero], ?_⟩
      rw [moveTo_quiet] <;> simp [punctual, zero]
    by_cases early : later < nextTick interval span
    case pos =>
      have same := div_of_lt_nextTick le early
      refine ⟨[], by simp [ticks, same], ?_⟩
      rw [moveTo_quiet]
      · simp [punctual, nextTick, same]
      · simpa [punctual, zero] using fun _ => early
    have ahead : span < nextTick interval span := lt_nextTick zero
    obtain ⟨sweeps, rest, moved⟩ := ih (later - nextTick interval span) (by omega) (by omega)
      ((start + nextTick interval span) :: swept) rfl
    refine ⟨(start + nextTick interval span) :: sweeps, ?_, ?_⟩
    · rw [rest, ticks_nextTick zero, List.append_assoc, List.singleton_append]
    · rw [moveTo_tick swept (by simp [punctual, zero]) (Nat.add_lt_add_left ahead start)
        (Nat.add_le_add_left (Nat.le_of_not_lt early) start) (turn_at_tick zero), moved]
      simp

def Runs (sweeper : Sweeper) (interval start span : Nat) : Prop :=
  sweeper = punctual interval start span ∨
    span = 0 ∧ sweeper = { interval, clock := start }

theorem Runs.pass {sweeper : Sweeper} (runs : sweeper.Runs interval start span) (millis : Nat) :
    ticks interval start (span + millis) = ticks interval start span ++ (sweeper.pass millis).1 ∧
      (sweeper.pass millis).2.Runs interval start (span + millis) := by
  have begun : sweeper.turn = (false, punctual interval start span) ∧
      sweeper.clock = start + span := by
    rcases runs with rfl | ⟨rfl, rfl⟩
    · exact ⟨turn_punctual interval start span, rfl⟩
    · exact ⟨turn_new interval start, rfl⟩
  obtain ⟨sweeps, split, moved⟩ := moveTo_punctual interval start
    (Nat.le_add_right span millis) []
  rw [Sweeper.pass, begun.1, begun.2, Nat.add_assoc]
  simp [moved, split, Runs]

theorem Runs.hasEnded {sweeper : Sweeper} (runs : sweeper.Runs interval start span) :
    sweeper.hasEnded = false := by
  rcases runs with rfl | ⟨-, rfl⟩
  · by_cases zero : interval = 0 <;> simp [Sweeper.hasEnded, punctual, zero]
  · rfl

structure IsOver (sweeper : Sweeper) : Prop where
  cancelled : sweeper.cancelled = true
  stage : sweeper.stage = some .ended

theorem IsOver.hasEnded {sweeper : Sweeper} (ended : sweeper.IsOver) : sweeper.hasEnded = true :=
  decide_eq_true ended.stage

theorem IsOver.pass {sweeper : Sweeper} (ended : sweeper.IsOver) (millis : Nat) :
    (sweeper.pass millis).1 = [] ∧ (sweeper.pass millis).2.IsOver := by
  have turned : sweeper.turn = (false, sweeper) := by
    rw [turn, if_pos ended.cancelled, ← ended.stage]
  have moved : moveTo (sweeper.clock + millis) [] sweeper = _ :=
    moveTo_quiet [] fun due waits => by simp [ended.stage] at waits
  rw [Sweeper.pass, turned]
  simp only [Bool.false_eq_true, if_false, moved]
  exact ⟨rfl, ended.cancelled, ended.stage⟩

end Sweeper

namespace Admission

variable {ν : Type} [Amount ν] (admission : Admission ν)

end Admission

structure Tended (ν : Type) where
  admission : Admission ν
  sweeper : Sweeper
  swept : List Nat := []

namespace Tended

inductive Event
  -- The buckets go by a clock of their own.
  | call (client : String) (now : Nat)
  | pass (millis : Nat)
  | cancel
  deriving DecidableEq

def Event.call? : Event → Option Limiter.Event
  | call client now => some (.call client now)
  | pass _ | cancel => none

variable {ν : Type} [Amount ν]

def happen (idle : Nat) (reading : Nat → Nat) (tended : Tended ν) : Event → Tended ν
  | .call client now => { tended with admission := (tended.admission.allow client now).2 }
  | .pass millis =>
    let (times, sweeper) := tended.sweeper.pass millis
    { admission := times.foldl (fun admission time => (admission.sweep idle (reading time)).2)
        tended.admission
      sweeper
      swept := tended.swept ++ times }
  | .cancel => { tended with sweeper := tended.sweeper.cancel }

def after (idle : Nat) (reading : Nat → Nat) (tended : Tended ν) (events : List Event) : Tended ν :=
  events.foldl (happen idle reading) tended

variable (idle : Nat) (reading : Nat → Nat)

end Tended

end Enrolment
