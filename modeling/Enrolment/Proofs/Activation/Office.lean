import Enrolment.Proofs.Activation.Steps
import Mathlib.Logic.Function.Basic

set_option autoImplicit false

namespace Enrolment

namespace Registrar

-- The reply to the write of a row gets lost, and all that is known is a failure.
def lose (cause : Cause) (registrar : Registrar) : Activation → Activation × Registrar
  | .inserted _ => registrar.conclude (.error (.ofStoreError (.backend cause)))
  | activation => (activation, registrar)

theorem lose_steps (cause : Cause) (registrar : Registrar) (activation : Activation) :
    registrar.Steps activation (registrar.lose cause activation).1
      (registrar.lose cause activation).2 := by
  cases activation with
  | inserted participant => exact .conclude _ _ _ ⟨rfl, rfl⟩ rfl (.failed _ _ rfl)
  | lookingUpAddress | lookingUpSponsor | inserting | finished =>
    exact .moved ⟨rfl, rfl⟩ rfl (.still _)

end Registrar

inductive Caller
  | waiting
  -- A statement may be under way still, and nothing but its end is to come.
  | left
  | forgotten
  deriving DecidableEq

structure Call where
  desk : Nat
  activation : Registrar.Activation
  caller : Caller := .waiting

namespace Call

def advance (draw : Draw) (registrar : Registrar) (call : Call) : Call × Registrar :=
  match call.caller with
  | .waiting =>
    let (activation, registrar) := registrar.advance draw call.activation
    ({ call with activation }, registrar)
  | .left =>
    let (activation, registrar) := registrar.finishStatement draw call.activation
    ({ call with activation, caller := .forgotten }, registrar)
  | .forgotten => (call, registrar)

def lose (cause : Cause) (registrar : Registrar) (call : Call) : Call × Registrar :=
  match call.caller with
  | .waiting =>
    let (activation, registrar) := registrar.lose cause call.activation
    ({ call with activation }, registrar)
  | .left | .forgotten => (call, registrar)

def abandon (call : Call) : Call :=
  match call.caller with
  | .waiting => { call with caller := .left }
  | .left | .forgotten => call

variable (registrar : Registrar) (call : Call)

theorem desk_advance (draw : Draw) : (call.advance draw registrar).1.desk = call.desk := by
  rcases call with ⟨desk, activation, waiting | left | forgotten⟩ <;> rfl

theorem desk_lose (cause : Cause) : (call.lose cause registrar).1.desk = call.desk := by
  rcases call with ⟨desk, activation, waiting | left | forgotten⟩ <;> rfl

theorem activation_abandon : call.abandon.activation = call.activation := by
  rcases call with ⟨desk, activation, waiting | left | forgotten⟩ <;> rfl

theorem desk_abandon : call.abandon.desk = call.desk := by
  rcases call with ⟨desk, activation, waiting | left | forgotten⟩ <;> rfl

theorem advance_steps (draw : Draw) :
    registrar.Steps call.activation (call.advance draw registrar).1.activation
      (call.advance draw registrar).2 := by
  rcases call with ⟨desk, activation, waiting | left | forgotten⟩
  · exact registrar.advance_steps draw activation
  · exact registrar.finishStatement_steps draw activation
  · exact .moved ⟨rfl, rfl⟩ rfl (.still _)

theorem lose_steps (cause : Cause) :
    registrar.Steps call.activation (call.lose cause registrar).1.activation
      (call.lose cause registrar).2 := by
  rcases call with ⟨desk, activation, waiting | left | forgotten⟩
  · exact Registrar.lose_steps cause registrar activation
  all_goals exact .moved ⟨rfl, rfl⟩ rfl (.still _)

theorem lose_ne_inserted (cause : Cause) {participant : Participant}
    (inserting : call.activation = .inserting participant) :
    (call.lose cause registrar).1.activation ≠ .inserted participant := by
  rcases call with ⟨desk, activation, waiting | left | forgotten⟩ <;>
    (subst inserting; intro inserted; cases inserted)

end Call

structure Office where
  store : Store
  -- The registrars, of which the common store takes the place of their own.
  desks : Nat → Registrar
  calls : List Call := []

namespace Office

inductive Event
  | register (desk : Nat) (draw : Draw) (claims : Claims)
  | present (desk : Nat) (now : Instant) (token fingerprint : String)
  | advance (number : Nat) (draw : Draw)
  | lose (number : Nat) (cause : Cause)
  | abandon (number : Nat)
  | disturb (failing : List Statement) (hidden : List String) (online : Bool)

def desk (office : Office) (number : Nat) : Registrar :=
  { office.desks number with store := office.store }

def seat (office : Office) (number : Nat) (registrar : Registrar) : Office :=
  { office with
    store := registrar.store
    desks := Function.update office.desks number registrar }

def welcome (office : Office) (desk : Nat) (state : Registrar.Activation × Registrar) : Office :=
  { office.seat desk state.2 with calls := office.calls ++ [{ desk, activation := state.1 }] }

def proceed (office : Office) (number : Nat) (go : Registrar → Call → Call × Registrar) : Office :=
  match office.calls[number]? with
  | some call =>
    let (next, registrar) := go (office.desk call.desk) call
    { office.seat call.desk registrar with calls := office.calls.set number next }
  | none => office

def step (office : Office) : Event → Office
  | .register desk draw claims => office.seat desk ((office.desk desk).register draw claims).2
  | .present desk now token fingerprint =>
    office.welcome desk ((office.desk desk).beginActivation now token fingerprint)
  | .advance number draw => office.proceed number (Call.advance draw)
  | .lose number cause => office.proceed number (Call.lose cause)
  | .abandon number => { office with calls := office.calls.modify number Call.abandon }
  | .disturb failing hidden online =>
    { office with store := { office.store with failing, hidden, online } }

def run (office : Office) (events : List Event) : Office := events.foldl step office

def written (office : Office) (event : Event) : List (Nat × Row) :=
  match event with
  | .advance number _ =>
    ((office.step event).store.rows.drop office.store.rows.length).map fun row => (number, row)
  | _ => []

def journal : Office → List Event → List (Nat × Row)
  | _, [] => []
  | office, event :: events => office.written event ++ journal (office.step event) events

def result? (office : Office) (number : Nat) : Option (Except RegistrationError Participant) :=
  office.calls[number]?.bind fun call => call.activation.result?

def opened (store : Store) (desks : Nat → Registrar) : Office := { store, desks }

variable (office : Office)

theorem run_append (earlier later : List Event) :
    office.run (earlier ++ later) = (office.run earlier).run later :=
  List.foldl_append

theorem run_concat (events : List Event) (event : Event) :
    office.run (events ++ [event]) = (office.run events).step event :=
  office.run_append events [event]

theorem journal_append (earlier later : List Event) :
    office.journal (earlier ++ later) =
      office.journal earlier ++ (office.run earlier).journal later := by
  induction earlier generalizing office with
  | nil => rfl
  | cons event earlier ih =>
    simp only [List.cons_append, journal, ih, List.append_assoc]
    rfl

theorem journal_concat (events : List Event) (event : Event) :
    office.journal (events ++ [event]) =
      office.journal events ++ (office.run events).written event := by
  rw [journal_append, journal, journal, List.append_nil]

def Opens (event : Event) (call : Call) : Prop :=
  ∃ desk now token fingerprint, event = .present desk now token fingerprint ∧
    call = ⟨desk, ((office.desk desk).beginActivation now token fingerprint).1, .waiting⟩

theorem Opens.activation {office : Office} {event : Event} {call : Call}
    (opens : office.Opens event call) :
    (∃ desk now token fingerprint claims, event = .present desk now token fingerprint ∧
        (office.desk desk).authorize now token fingerprint = .ok claims ∧
        call.activation = .lookingUpAddress claims) ∨
      ∃ error, call.activation = .finished (.error error) := by
  obtain ⟨desk, now, token, fingerprint, presents, rfl⟩ := opens
  rcases (office.desk desk).beginActivation_cases now token fingerprint with
    ⟨claims, authorized, begun⟩ | ⟨error, begun⟩
  · exact .inl ⟨desk, now, token, fingerprint, claims, presents, authorized, by rw [begun]⟩
  · exact .inr ⟨error, by rw [begun]; rfl⟩

def Follows (event : Event) (number : Nat) (call : Call) : Prop :=
  (∃ former, office.calls[number]? = some former ∧
      former.activation.Moves office.store.addresses call.activation) ∨
    (number = office.calls.length ∧ office.Opens event call)

structure Keeps (after : Office) : Prop where
  tokens : ∀ number, (after.desk number).tokens = (office.desk number).tokens
  cipher : after.store.cipher = office.store.cipher

inductive Steps (event : Event) (after : Office) : Prop
  | quiet (keeps : office.Keeps after) (rows : after.store.rows = office.store.rows)
      (grows : office.calls.length ≤ after.calls.length)
      (calls : ∀ number call, after.calls[number]? = some call →
        office.Follows event number call)
  | wrote (keeps : office.Keeps after) {number id : Nat} {draw : Draw} {call : Call}
      {caller : Caller} {participant : Participant} {nonce : Nonce}
      (advances : event = .advance number draw)
      (present : office.calls[number]? = some call)
      (inserting : call.activation = .inserting participant)
      (writes : office.store.Writes nonce.bytes participant id after.store)
      (calls : after.calls = office.calls.set number ⟨call.desk, .inserted participant, caller⟩)

theorem keeps_seat (number : Nat) (registrar : Registrar) (calls : List Call)
    (keeps : (office.desk number).Keeps registrar) :
    office.Keeps { office.seat number registrar with calls } := by
  refine ⟨fun other => ?_, keeps.cipher⟩
  by_cases same : other = number
  · subst same
    simpa [seat, desk] using keeps.tokens
  · simp [seat, desk, same]

theorem quiet_of_calls (event : Event) (after : Office) (keeps : office.Keeps after)
    (rows : after.store.rows = office.store.rows) (calls : after.calls = office.calls) :
    office.Steps event after := by
  have grows : office.calls.length ≤ after.calls.length := by simp [calls]
  refine .quiet keeps rows grows fun number call present => ?_
  rw [calls] at present
  exact .inl ⟨call, present, .still _⟩

theorem getElem?_set_cases {number other : Nat} {call found : Call} {calls : List Call}
    (present : (calls.set number call)[other]? = some found) :
    (other = number ∧ found = call) ∨ (other ≠ number ∧ calls[other]? = some found) := by
  by_cases same : other = number
  · subst same
    rw [List.getElem?_set_self'] at present
    cases former : calls[other]? <;> simp_all
  · rw [List.getElem?_set_ne (Ne.symm same)] at present
    exact .inr ⟨same, present⟩

theorem proceed_steps (event : Event) (number : Nat)
    (go : Registrar → Call → Call × Registrar)
    (desk : ∀ registrar call, (go registrar call).1.desk = call.desk)
    (steps : ∀ registrar call, Registrar.Steps registrar call.activation
      (go registrar call).1.activation (go registrar call).2)
    (quiet : (∃ draw, event = .advance number draw) ∨
      ∀ registrar call participant, call.activation = .inserting participant →
        (go registrar call).1.activation ≠ .inserted participant) :
    office.Steps event (office.proceed number go) := by
  unfold proceed
  split
  next call present =>
    have place := desk (office.desk call.desk) call
    have step := steps (office.desk call.desk) call
    generalize reached : go (office.desk call.desk) call = result at place step
    rcases result with ⟨⟨next, later, caller⟩, registrar⟩
    rcases call with ⟨former, activation, waited⟩
    obtain rfl : next = former := place
    simp only at step reached ⊢
    -- The call keeps its number whatever happens, and all other calls stay as they are.
    cases step with
    | moved keeps rows moves =>
      refine .quiet (office.keeps_seat _ _ _ keeps) rows (by simp) fun other found after => ?_
      rcases getElem?_set_cases after with ⟨rfl, rfl⟩ | ⟨different, unchanged⟩
      · exact .inl ⟨_, present, moves⟩
      · exact .inl ⟨found, unchanged, .still _⟩
    | wrote keeps writes =>
      rcases quiet with ⟨draw, advances⟩ | never
      · exact .wrote (office.keeps_seat _ _ _ keeps) advances present rfl writes rfl
      · exact absurd (by rw [reached]) (never _ _ _ rfl)
  next => exact office.quiet_of_calls _ _ ⟨fun _ => rfl, rfl⟩ rfl rfl

theorem step_steps (event : Event) : office.Steps event (office.step event) := by
  cases event with
  | register desk draw claims =>
    have ⟨keeps, store⟩ := (office.desk desk).register_keeps draw claims
    exact office.quiet_of_calls _ _ (office.keeps_seat _ _ _ keeps) (congrArg Store.rows store) rfl
  | present desk now token fingerprint =>
    have keeps : (office.desk desk).Keeps
        ((office.desk desk).beginActivation now token fingerprint).2 ∧
          ((office.desk desk).beginActivation now token fingerprint).2.store = office.store := by
      rcases (office.desk desk).beginActivation_cases now token fingerprint with
        ⟨claims, -, begun⟩ | ⟨error, begun⟩ <;> rw [begun] <;> exact ⟨⟨rfl, rfl⟩, rfl⟩
    refine .quiet (office.keeps_seat _ _ _ keeps.1) (congrArg Store.rows keeps.2)
      (by simp [step, welcome]) fun number call after => ?_
    -- Calls are numbered in the order in which they are opened, so the last one is the new one.
    by_cases earlier : number < office.calls.length
    · simp only [step, welcome, List.getElem?_append_left earlier] at after
      exact .inl ⟨call, after, .still _⟩
    · simp only [step, welcome, List.getElem?_append_right (Nat.le_of_not_lt earlier)] at after
      have last := List.getElem?_eq_some_iff.mp after
      obtain ⟨bound, found⟩ := last
      simp only [List.length_singleton] at bound
      refine .inr ⟨by omega, desk, now, token, fingerprint, rfl, ?_⟩
      rw [← found, List.getElem_singleton]
  | advance number draw =>
    exact office.proceed_steps _ _ _ (fun registrar call => call.desk_advance registrar draw)
      (fun registrar call => call.advance_steps registrar draw) (.inl ⟨draw, rfl⟩)
  | lose number cause =>
    exact office.proceed_steps _ _ _ (fun registrar call => call.desk_lose registrar cause)
      (fun registrar call => call.lose_steps registrar cause)
      (.inr fun registrar call _ => call.lose_ne_inserted registrar cause)
  | abandon number =>
    refine .quiet ⟨fun _ => rfl, rfl⟩ rfl (by simp [step]) fun other call after => ?_
    simp only [step, List.getElem?_modify] at after
    cases former : office.calls[other]? with
    | none => simp [former] at after
    | some found =>
      refine .inl ⟨found, former, ?_⟩
      rw [former] at after
      split at after
      · cases after
        rw [found.activation_abandon]
        exact .still _
      · cases after
        exact .still _
  | disturb failing hidden online =>
    exact office.quiet_of_calls _ _ ⟨fun _ => rfl, rfl⟩ rfl rfl

theorem Keeps.trans {before middle after : Office} (first : before.Keeps middle)
    (second : middle.Keeps after) : before.Keeps after where
  tokens number := (second.tokens number).trans (first.tokens number)
  cipher := second.cipher.trans first.cipher

theorem keeps_step (event : Event) : office.Keeps (office.step event) := by
  cases office.step_steps event with
  | quiet keeps => exact keeps
  | wrote keeps => exact keeps

theorem keeps_run (events : List Event) : office.Keeps (office.run events) := by
  induction events generalizing office with
  | nil => exact ⟨fun _ => rfl, rfl⟩
  | cons event events ih => exact (office.keeps_step event).trans (ih _)

theorem Steps.later {event : Event} {after : Office} (steps : office.Steps event after)
    {number : Nat} {former : Call} (present : office.calls[number]? = some former) :
    ∃ call, after.calls[number]? = some call ∧
      ∀ result, former.activation.result? = some result →
        call.activation.result? = some result := by
  have within : number < office.calls.length := (List.getElem?_eq_some_iff.mp present).1
  cases steps with
  | quiet keeps rows grows calls =>
    have found := List.getElem?_eq_getElem (Nat.lt_of_lt_of_le within grows)
    refine ⟨_, found, fun result returned => ?_⟩
    rcases calls number _ found with ⟨same, earlier, moves⟩ | ⟨last, -⟩
    · rw [present] at earlier
      cases earlier
      exact moves.result? returned
    · omega
  | @wrote keeps writer id draw call caller participant nonce advances writing inserting writes calls =>
    -- The call that writes has not returned, and the others are not touched.
    by_cases same : number = writer
    · subst same
      rw [present] at writing
      cases writing
      refine ⟨_, by rw [calls]; exact List.getElem?_set_self within, fun result returned => ?_⟩
      rw [inserting] at returned
      cases returned
    · have unchanged : after.calls[number]? = some former := by
        rw [calls, List.getElem?_set_ne (Ne.symm same), present]
      exact ⟨former, unchanged, fun _ returned => returned⟩

theorem result?_step (event : Event) {number : Nat}
    {result : Except RegistrationError Participant}
    (returned : office.result? number = some result) :
    (office.step event).result? number = some result := by
  obtain ⟨former, present, settled⟩ := Option.bind_eq_some_iff.mp returned
  obtain ⟨call, later, same⟩ := (office.step_steps event).later office present
  exact Option.bind_eq_some_iff.mpr ⟨call, later, same result settled⟩

theorem result?_run (events : List Event) {number : Nat}
    {result : Except RegistrationError Participant}
    (returned : office.result? number = some result) :
    (office.run events).result? number = some result := by
  induction events generalizing office with
  | nil => exact returned
  | cons event events ih => exact ih _ (office.result?_step event returned)

theorem addresses_step (event : Event) {address : String}
    (stored : address ∈ office.store.addresses) :
    address ∈ (office.step event).store.addresses := by
  cases office.step_steps event with
  | quiet keeps rows => rwa [Store.addresses, rows]
  | wrote keeps advances present inserting writes =>
    rw [Store.addresses, writes.rows, List.map_append]
    exact List.mem_append_left _ stored

theorem addresses_run (events : List Event) {address : String}
    (stored : address ∈ office.store.addresses) :
    address ∈ (office.run events).store.addresses := by
  induction events generalizing office with
  | nil => exact stored
  | cons event events ih => exact ih _ (office.addresses_step event stored)

theorem written_quiet {office : Office} {event : Event}
    (rows : (office.step event).store.rows = office.store.rows) : office.written event = [] := by
  cases event <;> simp [written, rows]

theorem written_advance {office : Office} {number : Nat} {draw : Draw} {row : Row}
    (rows : (office.step (.advance number draw)).store.rows = office.store.rows ++ [row]) :
    office.written (.advance number draw) = [(number, row)] := by
  simp [written, rows]

theorem welcome_advance (desk : Nat) (state : Registrar.Activation × Registrar) (draw : Draw) :
    (office.welcome desk state).step (.advance office.calls.length draw) =
      office.welcome desk (state.2.advance draw state.1) := by
  simp [step, proceed, Call.advance, welcome, seat, Office.desk]

theorem welcome_run (desk : Nat) (draw : Draw) (steps : Nat)
    (state : Registrar.Activation × Registrar) :
    (office.welcome desk state).run (List.replicate steps (.advance office.calls.length draw)) =
      office.welcome desk (Registrar.run draw steps state) := by
  induction steps generalizing state with
  | zero => rfl
  | succ steps ih =>
    rw [List.replicate_succ, run, List.foldl_cons, welcome_advance]
    exact ih _

theorem run_uninterrupted (desk : Nat) (draw : Draw) (token fingerprint : String) :
    office.run (.present desk draw.now token fingerprint ::
        List.replicate 4 (.advance office.calls.length draw)) =
      office.welcome desk (.finished ((office.desk desk).activate draw token fingerprint).1,
        ((office.desk desk).activate draw token fingerprint).2) := by
  rw [run, List.foldl_cons, ← Registrar.run_beginActivation]
  exact office.welcome_run desk draw 4 _

end Office

end Enrolment
