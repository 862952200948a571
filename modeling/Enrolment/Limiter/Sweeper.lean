import Enrolment.Limiter.Table

set_option autoImplicit false

namespace Enrolment

inductive Sweeper.Stage
  | ticking (due : Nat)
  | cancellation
  | ended
  deriving Repr, DecidableEq

structure Sweeper where
  interval : Nat
  clock : Nat := 0
  -- None until the first turn.
  stage : Option Sweeper.Stage := none
  cancelled : Bool := false

namespace Sweeper

def hasEnded (sweeper : Sweeper) : Bool := sweeper.stage = some .ended

def stageNow (sweeper : Sweeper) : Stage :=
  match sweeper.stage with
  | some stage => stage
  | none =>
    if sweeper.interval = 0 then .cancellation else .ticking (sweeper.clock + sweeper.interval)

-- One turn of the task, and whether it sweeps. A tick that comes late delays those behind it.
def turn (sweeper : Sweeper) : Bool × Sweeper :=
  if sweeper.cancelled then (false, { sweeper with stage := some .ended })
  else
    match sweeper.stageNow with
    | .ticking due =>
      if due ≤ sweeper.clock then
        (true, { sweeper with stage := some (.ticking (sweeper.clock + sweeper.interval)) })
      else (false, { sweeper with stage := some (.ticking due) })
    | stage => (false, { sweeper with stage := some stage })

def due? (sweeper : Sweeper) : Option Nat :=
  match sweeper.stageNow with
  | .ticking due => some due
  | _ => none

@[simp] theorem clock_turn (sweeper : Sweeper) : sweeper.turn.2.clock = sweeper.clock := by
  unfold turn
  repeat' split
  all_goals rfl

def cancel (sweeper : Sweeper) : Sweeper := { sweeper with cancelled := true }.turn.2

-- Moves the clock to a time, by way of all ticks before it. The task has a turn at each of them.
-- The times of its sweeps are put in front of earlier ones, the latest first.
def moveTo (time : Nat) (swept : List Nat) (sweeper : Sweeper) : List Nat × Sweeper :=
  match sweeper.stage with
  | some (.ticking due) =>
    if sweeper.clock < due ∧ due ≤ time then
      let there : Sweeper := { sweeper with clock := due }
      moveTo time (if there.turn.1 then due :: swept else swept) there.turn.2
    else (swept, { sweeper with clock := time })
  | _ => (swept, { sweeper with clock := time })
termination_by time - sweeper.clock
decreasing_by
  simp only [clock_turn]
  omega

def pass (sweeper : Sweeper) (millis : Nat) : List Nat × Sweeper :=
  let (swept, sweeper) := moveTo (sweeper.clock + millis)
    (if sweeper.turn.1 then [sweeper.clock] else []) sweeper.turn.2
  (swept.reverse, sweeper)

def advance (sweeper : Sweeper) (millis : Nat) : Nat × Sweeper :=
  let (swept, sweeper) := sweeper.pass millis
  (swept.length, sweeper)

end Sweeper

def Admission.sweepTimes {ν : Type} (idle : Nat) : Nat → Nat → Admission ν → Admission ν
  | 0, _, admission => admission
  | times + 1, now, admission => sweepTimes idle times (now + 1) (admission.sweep idle now).2

end Enrolment
