import Enrolment.Drain
import Enrolment.Proofs.Activation.Completion
import Enrolment.Proofs.Http.Posting
import Mathlib.Data.List.Induction

set_option autoImplicit false

namespace Enrolment

namespace Drain

theorem wait_cases (timeout clock since : Nat) (outbox : Outbox) :
    (outbox.emptied = true ∧
        wait timeout clock since outbox = (.finished true, outbox.reopen)) ∨
      (outbox.emptied = false ∧ since + timeout ≤ clock ∧
        wait timeout clock since outbox = (.finished false, outbox.reopen)) ∨
      (outbox.emptied = false ∧ clock < since + timeout ∧
        wait timeout clock since outbox = (.waiting since, outbox)) := by
  unfold wait
  cases outbox.emptied with
  | true => exact .inl ⟨rfl, rfl⟩
  | false =>
    by_cases late : since + timeout ≤ clock
    · exact .inr (.inl ⟨rfl, late, if_pos late⟩)
    · exact .inr (.inr ⟨rfl, Nat.lt_of_not_le late, if_neg late⟩)

end Drain

structure Shutdown where
  app : App
  timeout : Nat
  clock : Nat := 0
  requests : List Handling := []
  -- The pending notifications by their numbers, which count what was ever asked for.
  numbers : List Nat
  asked : Nat
  -- How many had been asked for when the server had finished.
  served : Option Nat := none
  drain : Drain := .serving

inductive Move
  | receive (draw : Draw) (clock : Nat) (request : Request)
  | advance (draw : Draw) (position : Nat)
  -- A request under way is given up, or its answer is sent.
  | drop (position : Nat)
  | store (store : Store)
  | finish (position : Nat) (isLost : Bool)
  | elapse (millis : Nat)
  -- The server has finished.
  | serve
  -- Whoever waits looks at the outbox.
  | poll

namespace Shutdown

def outbox (state : Shutdown) : Outbox := state.app.outbox

def withOutbox (state : Shutdown) (outbox : Outbox) : Shutdown :=
  { state with app := { state.app with registrar := { state.app.registrar with outbox } } }

def went (state : Shutdown) (app : App) : Shutdown :=
  let added := app.outbox.pending.length - state.outbox.pending.length
  { state with
    app
    numbers := state.numbers ++ List.range' state.asked added
    asked := state.asked + added }

def happen (state : Shutdown) : Move → Shutdown
  | .receive draw clock request =>
    let (handling, app) := state.app.receive draw clock request
    { state.went app with requests := state.requests ++ [handling] }
  | .advance draw position =>
    match state.requests[position]? with
    | none => state
    | some handling =>
      let (next, app) := state.app.advance draw handling
      { state.went app with requests := state.requests.set position next }
  | .drop position => { state with requests := state.requests.eraseIdx position }
  | .store store =>
    { state with app := { state.app with registrar := { state.app.registrar with store } } }
  | .finish position isLost =>
    { state.withOutbox (state.outbox.finish position isLost) with
      numbers := state.numbers.eraseIdx position }
  | .elapse millis => { state with clock := state.clock + millis }
  | .serve => { state with served := some (state.served.getD state.asked) }
  | .poll =>
    let (drain, outbox) :=
      state.drain.poll state.timeout state.clock state.served.isSome state.outbox
    { state.withOutbox outbox with drain }

def run (state : Shutdown) (moves : List Move) : Shutdown := moves.foldl happen state

def start (app : App) (timeout : Nat) : Shutdown where
  app := app
  timeout := timeout
  numbers := List.range app.outbox.pending.length
  asked := app.outbox.pending.length

structure Sound (state : Shutdown) : Prop where
  numbered : state.numbers.length = state.outbox.pending.length
  increasing : state.numbers.Pairwise (· < ·)
  counted : ∀ number ∈ state.numbers, number < state.asked
  due_le : ∀ due, state.served = some due → due ≤ state.asked
  awaited : state.drain ≠ .serving → state.served ≠ none
  opened : (∀ since, state.drain ≠ .waiting since) → state.outbox.closed = false
  closed : ∀ since, state.drain = .waiting since → state.outbox.closed = true
  begun : ∀ since, state.drain = .waiting since → since ≤ state.clock
  lingering : state.outbox.closed = true → state.outbox.emptied = false →
    state.outbox.pending ≠ []
  cleared : ∀ due, state.served = some due →
    (state.outbox.closed = true ∧ state.outbox.emptied = true ∨ state.drain = .finished true) →
      ∀ number ∈ state.numbers, due ≤ number

variable {state : Shutdown}

theorem sound_start {app : App} (timeout : Nat) (opened : app.outbox.closed = false) :
    (start app timeout).Sound where
  numbered := List.length_range
  increasing := List.pairwise_lt_range
  counted _ member := List.mem_range.mp member
  due_le _ served := by cases served
  awaited serving := absurd rfl serving
  opened _ := opened
  closed _ waiting := by cases waiting
  begun _ waiting := by cases waiting
  lingering closed := by cases opened.symm.trans closed
  cleared _ served := by cases served

theorem Sound.went (sound : state.Sound) {app : App} (grows : state.outbox.Grows app.outbox) :
    (state.went app).Sound := by
  obtain ⟨added, grown⟩ := grows
  have pending : app.outbox.pending = state.outbox.pending ++ added := by rw [grown]
  have closed : app.outbox.closed = state.outbox.closed := by rw [grown]
  have emptied : app.outbox.emptied = state.outbox.emptied := by rw [grown]
  have length : app.outbox.pending.length - state.outbox.pending.length = added.length := by
    rw [pending, List.length_append, Nat.add_sub_cancel_left]
  constructor
  case numbered =>
    show (state.numbers ++ List.range' state.asked _).length = app.outbox.pending.length
    rw [List.length_append, List.length_range', length, sound.numbered, pending,
      List.length_append]
  case increasing =>
    refine List.pairwise_append.mpr ⟨sound.increasing, List.pairwise_lt_range', ?_⟩
    intro number before later new
    exact Nat.lt_of_lt_of_le (sound.counted number before) (List.mem_range'_1.mp new).1
  case counted =>
    intro number member
    rcases List.mem_append.mp member with before | new
    · exact Nat.lt_add_right _ (sound.counted number before)
    · exact (List.mem_range'_1.mp new).2
  case due_le =>
    intro due served
    exact Nat.le_add_right_of_le (sound.due_le due served)
  case awaited => exact sound.awaited
  case opened => exact fun idle => closed.trans (sound.opened idle)
  case closed => exact fun since waiting => closed.trans (sound.closed since waiting)
  case begun => exact sound.begun
  case lingering =>
    intro shut busy
    show app.outbox.pending ≠ []
    rw [pending]
    exact List.append_ne_nil_of_left_ne_nil
      (sound.lingering (closed.symm.trans shut) (emptied.symm.trans busy)) added
  case cleared =>
    -- What is asked for after the server has finished gets numbers that do not matter.
    intro due served ended number member
    have before : state.outbox.closed = true ∧ state.outbox.emptied = true ∨
        state.drain = .finished true :=
      ended.imp_left fun ⟨shut, idle⟩ => ⟨closed.symm.trans shut, emptied.symm.trans idle⟩
    rcases List.mem_append.mp member with old | new
    · exact sound.cleared due served before number old
    · exact Nat.le_trans (sound.due_le due served) (List.mem_range'_1.mp new).1

theorem Sound.finish (sound : state.Sound) (position : Nat) (isLost : Bool) :
    (state.happen (.finish position isLost)).Sound := by
  let after := state.outbox.pending.eraseIdx position
  have emptied : (state.happen (.finish position isLost)).outbox.emptied =
      (state.outbox.emptied || (state.outbox.closed && after.isEmpty)) := rfl
  have sub : ∀ number ∈ state.numbers.eraseIdx position, number ∈ state.numbers := fun _ member =>
    (List.eraseIdx_sublist _ _).subset member
  have length : (state.numbers.eraseIdx position).length = after.length := by
    rw [List.length_eraseIdx, List.length_eraseIdx, sound.numbered]
  constructor
  case numbered => exact length
  case increasing => exact sound.increasing.sublist (List.eraseIdx_sublist _ _)
  case counted => exact fun number member => sound.counted number (sub number member)
  case due_le => exact sound.due_le
  case awaited => exact sound.awaited
  case opened => exact sound.opened
  case closed => exact sound.closed
  case begun => exact sound.begun
  case lingering =>
    intro shut busy
    have closed : state.outbox.closed = true := shut
    rw [emptied, closed, Bool.true_and, Bool.or_eq_false_iff] at busy
    exact List.isEmpty_eq_false_iff.mp busy.2
  case cleared =>
    intro due served ended number member
    rw [emptied, Bool.or_eq_true, Bool.and_eq_true] at ended
    rcases ended with ⟨closed, idle | ⟨-, idle⟩⟩ | drained
    · exact sound.cleared due served (.inl ⟨closed, idle⟩) number (sub number member)
    · -- The last one has ended.
      rw [List.isEmpty_iff.mp idle, List.length_nil] at length
      exact absurd (List.eq_nil_of_length_eq_zero length) (List.ne_nil_of_mem member)
    · exact sound.cleared due served (.inr drained) number (sub number member)

theorem Sound.serve (sound : state.Sound) : (state.happen .serve).Sound := by
  cases served : state.served with
  | some due =>
    have same : some (state.served.getD state.asked) = state.served := by
      rw [served]
      rfl
    rw [Shutdown.happen, same]
    exact sound
  | none =>
    -- Nobody waits yet.
    have serving : state.drain = .serving :=
      Decidable.byContradiction fun awaits => sound.awaited awaits served
    have unclosed : state.outbox.closed = false := sound.opened (by simp [serving])
    refine { sound with
      due_le := ?_
      awaited := fun awaits => absurd serving awaits
      cleared := ?_ }
    · rintro due ⟨⟩
      rw [served]
      exact Nat.le_refl _
    · rintro due - (⟨closed, -⟩ | drained)
      · cases unclosed.symm.trans closed
      · cases serving.symm.trans drained

def close (state : Shutdown) : Shutdown :=
  { state.withOutbox state.outbox.close with drain := .waiting state.clock }

def waitOn (state : Shutdown) (since : Nat) : Shutdown :=
  let (drain, outbox) := Drain.wait state.timeout state.clock since state.outbox
  { state.withOutbox outbox with drain }

theorem happen_poll (state : Shutdown) :
    state.happen .poll = match state.drain, state.served with
      | .serving, some _ => state.close.waitOn state.clock
      | .waiting since, _ => state.waitOn since
      | _, _ => state := by
  obtain ⟨app, timeout, clock, requests, numbers, asked, served, drain⟩ := state
  cases drain with
  | serving => cases served <;> rfl
  | waiting => rfl
  | finished => rfl

theorem Sound.close (sound : state.Sound) (served : state.served ≠ none) : state.close.Sound := by
  have emptied : state.close.outbox.emptied = state.outbox.pending.isEmpty := rfl
  refine { sound with
    awaited := fun _ => served
    opened := fun idle => absurd rfl (idle state.clock)
    closed := fun _ _ => rfl
    begun := ?_
    lingering := fun _ busy => List.isEmpty_eq_false_iff.mp (emptied ▸ busy)
    cleared := ?_ }
  · rintro since ⟨⟩
    exact Nat.le_refl _
  · rintro due - (⟨-, idle⟩ | drained) number member
    · have length := sound.numbered
      rw [List.isEmpty_iff.mp (emptied.symm.trans idle), List.length_nil] at length
      exact absurd (List.eq_nil_of_length_eq_zero length) (List.ne_nil_of_mem member)
    · cases drained

theorem Sound.reopen (sound : state.Sound) (served : state.served ≠ none) (drained : Bool)
    (cleared : drained = true → ∀ due, state.served = some due →
      ∀ number ∈ state.numbers, due ≤ number) :
    Sound { state.withOutbox state.outbox.reopen with drain := .finished drained } := by
  refine { sound with
    awaited := fun _ => served
    opened := fun _ => rfl
    closed := fun _ waiting => nomatch waiting
    begun := fun _ waiting => nomatch waiting
    lingering := fun closed => nomatch closed
    cleared := ?_ }
  rintro due served (⟨closed, -⟩ | ended)
  · cases closed
  · exact cleared (Drain.finished.inj ended) due served

theorem Sound.waitOn (sound : state.Sound) {since : Nat} (waiting : state.drain = .waiting since) :
    (state.waitOn since).Sound := by
  have served : state.served ≠ none := sound.awaited (by simp [waiting])
  rcases Drain.wait_cases state.timeout state.clock since state.outbox with
    ⟨emptied, ended⟩ | ⟨-, -, ended⟩ | ⟨-, -, goesOn⟩
  · rw [Shutdown.waitOn, ended]
    exact sound.reopen served true fun _ due served =>
      sound.cleared due served (.inl ⟨sound.closed since waiting, emptied⟩)
  · rw [Shutdown.waitOn, ended]
    exact sound.reopen served false nofun
  · rw [Shutdown.waitOn, goesOn, ← waiting]
    exact sound

theorem Sound.poll (sound : state.Sound) : (state.happen .poll).Sound := by
  rw [happen_poll]
  split
  next due _ served => exact (sound.close (by simp [served])).waitOn rfl
  next _ since waiting => exact sound.waitOn waiting
  · exact sound

theorem Sound.happen (sound : state.Sound) (move : Move) : (state.happen move).Sound := by
  cases move with
  | receive draw clock request =>
    exact { sound.went (state.app.grows_receive draw request clock) with }
  | advance draw position =>
    simp only [Shutdown.happen]
    split
    · exact sound
    next handling _ => exact { sound.went (state.app.grows_advance draw handling) with }
  | drop | store => exact { sound with }
  | elapse millis =>
    exact { sound with begun := fun since waiting => Nat.le_add_right_of_le (sound.begun since waiting) }
  | finish position isLost => exact sound.finish position isLost
  | serve => exact sound.serve
  | poll => exact sound.poll

theorem Sound.run (sound : state.Sound) (moves : List Move) : (state.run moves).Sound := by
  induction moves generalizing state with
  | nil => exact sound
  | cons move moves ih => exact ih (sound.happen move)

def Began (begin : Shutdown) (moves : List Move) (since : Nat) : Prop :=
  ∃ before after, moves = before ++ .poll :: after ∧ (begin.run before).drain = .serving ∧
    (begin.run before).served ≠ none ∧ (begin.run before).clock = since

def GaveUp (begin : Shutdown) (moves : List Move) : Prop :=
  ∃ before after since, moves = before ++ .poll :: after ∧ begin.Began (before ++ [.poll]) since ∧
    since + begin.timeout ≤ (begin.run before).clock ∧ (begin.run before).outbox.pending ≠ []

variable {begin : Shutdown} {moves : List Move}

theorem Began.later {since : Nat} (began : begin.Began moves since) (move : Move) :
    begin.Began (moves ++ [move]) since := by
  obtain ⟨before, after, rfl, serving, served, clock⟩ := began
  exact ⟨before, after ++ [move], by simp, serving, served, clock⟩

theorem GaveUp.later (gaveUp : begin.GaveUp moves) (move : Move) :
    begin.GaveUp (moves ++ [move]) := by
  obtain ⟨before, after, since, rfl, began, late, pending⟩ := gaveUp
  exact ⟨before, after ++ [move], since, by simp, began, late, pending⟩

theorem run_append_singleton (begin : Shutdown) (moves : List Move) (move : Move) :
    begin.run (moves ++ [move]) = (begin.run moves).happen move := by
  rw [run, List.foldl_append]
  rfl

theorem timeout_happen (state : Shutdown) (move : Move) :
    (state.happen move).timeout = state.timeout := by
  cases move with
  | advance =>
    simp only [happen]
    split <;> rfl
  | receive | drop | store | finish | elapse | serve | poll => rfl

theorem timeout_run (begin : Shutdown) (moves : List Move) :
    (begin.run moves).timeout = begin.timeout := by
  induction moves generalizing begin with
  | nil => rfl
  | cons move moves ih => exact (ih (begin.happen move)).trans (timeout_happen begin move)

theorem drain_happen (state : Shutdown) {move : Move} (blind : move ≠ .poll) :
    (state.happen move).drain = state.drain := by
  cases move with
  | poll => exact absurd rfl blind
  | advance =>
    simp only [happen]
    split <;> rfl
  | receive | drop | store | finish | elapse | serve => rfl

theorem drain_waitOn (state : Shutdown) (since : Nat) :
    (state.waitOn since).drain = .finished true ∧ state.outbox.emptied = true ∨
      (state.waitOn since).drain = .finished false ∧ state.outbox.emptied = false ∧
        since + state.timeout ≤ state.clock ∨
      (state.waitOn since).drain = .waiting since ∧ state.outbox.emptied = false ∧
        state.clock < since + state.timeout := by
  rcases Drain.wait_cases state.timeout state.clock since state.outbox with
    ⟨emptied, ended⟩ | ⟨busy, late, ended⟩ | ⟨busy, early, goesOn⟩
  · exact .inl ⟨by rw [waitOn, ended], emptied⟩
  · exact .inr (.inl ⟨by rw [waitOn, ended], busy, late⟩)
  · exact .inr (.inr ⟨by rw [waitOn, goesOn], busy, early⟩)

theorem history_waitOn {since : Nat} (sound : state.Sound) (waiting : state.drain = .waiting since)
    (began : begin.Began (moves ++ [.poll]) since)
    (timeout : state.timeout = begin.timeout) (clock : state.clock = (begin.run moves).clock)
    (pending : state.outbox.pending = (begin.run moves).outbox.pending) :
    (∀ time, (state.waitOn since).drain = .waiting time → begin.Began (moves ++ [.poll]) time) ∧
      ((state.waitOn since).drain = .finished false → begin.GaveUp (moves ++ [.poll])) := by
  rcases state.drain_waitOn since with ⟨ended, -⟩ | ⟨ended, busy, late⟩ | ⟨goesOn, -, -⟩
  · rw [ended]
    exact ⟨nofun, nofun⟩
  · rw [ended]
    refine ⟨nofun, fun _ => ⟨moves, [], since, rfl, began, ?_, ?_⟩⟩
    · rwa [← timeout, ← clock]
    · rw [← pending]
      exact sound.lingering (sound.closed since waiting) busy
  · rw [goesOn]
    refine ⟨?_, nofun⟩
    rintro time ⟨⟩
    exact began

theorem history (sound : begin.Sound) (serving : begin.drain = .serving) (moves : List Move) :
    (∀ since, (begin.run moves).drain = .waiting since → begin.Began moves since) ∧
      ((begin.run moves).drain = .finished false → begin.GaveUp moves) := by
  induction moves using List.reverseRecOn with
  | nil =>
    constructor
    · intro since waiting
      cases serving.symm.trans waiting
    · intro ended
      cases serving.symm.trans ended
  | append_singleton moves move ih =>
    obtain ⟨began, gaveUp⟩ := ih
    have there := sound.run moves
    have timeout := timeout_run begin moves
    rw [run_append_singleton]
    by_cases polls : move = .poll
    · subst polls
      rw [happen_poll]
      split
      next due serving served =>
        have served : (begin.run moves).served ≠ none := by simp [served]
        exact history_waitOn (there.close served) rfl ⟨moves, [], rfl, serving, served, rfl⟩
          timeout rfl rfl
      next _ since waiting =>
        exact history_waitOn there waiting ((began since waiting).later .poll) timeout rfl rfl
      · exact ⟨fun since waiting => (began since waiting).later .poll,
          fun ended => (gaveUp ended).later .poll⟩
    · rw [drain_happen _ polls]
      exact ⟨fun since waiting => (began since waiting).later move,
        fun ended => (gaveUp ended).later move⟩

theorem finished_of_late {since : Nat} (waiting : state.drain = .waiting since)
    (late : since + state.timeout ≤ state.clock) :
    ∃ drained, (state.happen .poll).drain = .finished drained := by
  rw [happen_poll, waiting]
  rcases state.drain_waitOn since with ⟨ended, -⟩ | ⟨ended, -, -⟩ | ⟨-, -, early⟩
  · exact ⟨true, ended⟩
  · exact ⟨false, ended⟩
  · omega

theorem Sound.drained (sound : state.Sound) {since : Nat} (waiting : state.drain = .waiting since)
    (idle : state.outbox.pending = []) : (state.happen .poll).drain = .finished true := by
  rw [happen_poll, waiting]
  rcases state.drain_waitOn since with ⟨ended, -⟩ | ⟨-, busy, -⟩ | ⟨-, busy, -⟩
  · exact ended
  all_goals exact absurd idle (sound.lingering (sound.closed since waiting) busy)

theorem ne_serving_poll (served : state.served ≠ none) : (state.happen .poll).drain ≠ .serving := by
  have waits (state : Shutdown) (since : Nat) : (state.waitOn since).drain ≠ .serving := by
    rcases state.drain_waitOn since with ⟨drain, -⟩ | ⟨drain, -⟩ | ⟨drain, -⟩ <;> simp [drain]
  obtain ⟨due, served⟩ := Option.ne_none_iff_exists'.mp served
  rw [happen_poll, served]
  cases drain : state.drain with
  | serving => exact waits _ _
  | waiting since => exact waits _ _
  | finished => simp [drain]

theorem Sound.finishes (sound : state.Sound) (served : state.served ≠ none) :
    ∃ drained, (state.run [.poll, .elapse state.timeout, .poll]).drain = .finished drained := by
  let after := (state.happen .poll).happen (.elapse state.timeout)
  show ∃ drained, (after.happen .poll).drain = .finished drained
  have timeout : after.timeout = state.timeout := rfl
  cases drain : (state.happen .poll).drain with
  | serving => exact absurd drain (ne_serving_poll served)
  | waiting since =>
    have begun := (sound.happen .poll).begun since drain
    have waiting : after.drain = .waiting since := drain
    exact finished_of_late waiting (timeout ▸ Nat.add_le_add_right begun state.timeout)
  | finished drained =>
    have finished : after.drain = .finished drained := drain
    rw [happen_poll, finished]
    exact ⟨drained, finished⟩

theorem shutdown_waits (app : App) (timeout : Nat) (opened : app.outbox.closed = false)
    (moves : List Move) :
    let state := (start app timeout).run moves
    (state.numbers.length = state.outbox.pending.length ∧ state.numbers.Pairwise (· < ·) ∧
      (∀ number ∈ state.numbers, number < state.asked) ∧
      ∀ due, state.served = some due → due ≤ state.asked) ∧
    (state.drain = .serving → state.outbox.closed = false) ∧
    (state.drain ≠ .serving → state.served ≠ none) ∧
    (state.drain = .finished true →
      ∀ due, state.served = some due → ∀ number ∈ state.numbers, due ≤ number) ∧
    (state.drain = .finished false → (start app timeout).GaveUp moves) ∧
    (∀ drained, state.drain = .finished drained → state.outbox.closed = false) ∧
    (∀ since, state.drain = .waiting since → state.outbox.pending = [] →
      (state.happen .poll).drain = .finished true) ∧
    (state.served ≠ none →
      ∃ drained, (state.run [.poll, .elapse timeout, .poll]).drain = .finished drained) := by
  have begins := sound_start timeout opened
  have sound := begins.run moves
  refine ⟨⟨sound.numbered, sound.increasing, sound.counted, sound.due_le⟩, ?_, sound.awaited, ?_,
    (history begins rfl moves).2, ?_, fun since => sound.drained, ?_⟩
  case refine_1 => exact fun serving => sound.opened (by simp [serving])
  case refine_2 => exact fun drained due served => sound.cleared due served (.inr drained)
  case refine_3 => exact fun drained ended => sound.opened (by simp [ended])
  case refine_4 =>
    intro served
    have ends := sound.finishes served
    rwa [timeout_run] at ends

def closing : App where
  registrar := Registrar.posted Office.frontDesk (.confirmation "ann@example.org")
  apiKey := "key"
  listPath := ("secret", "path")

-- The mail goes out in time.
def prompt : List Move := [.poll, .serve, .poll, .finish 0 false, .poll]

def slow : List Move := [.poll, .serve, .poll, .elapse 1000, .poll]

theorem shutdown_waits_closing :
    closing.outbox.closed = false ∧
      (∀ number ∈ ((start closing 1000).run prompt).numbers, 1 ≤ number) ∧
      (start closing 1000).GaveUp slow := by
  obtain ⟨-, -, -, sent, -⟩ := shutdown_waits closing 1000 rfl prompt
  obtain ⟨-, -, -, -, late, -⟩ := shutdown_waits closing 1000 rfl slow
  exact ⟨rfl, sent rfl 1 rfl, late rfl⟩

end Shutdown

end Enrolment
