import Enrolment.Proofs.Activation.Agreement
import Enrolment.Proofs.Activation.Completion
import Enrolment.Proofs.Activation.Marks
import Mathlib.Data.List.Forall2

set_option autoImplicit false

namespace Enrolment

def Outcome.all : List Outcome := [activated, unauthorized, conflict, unknownSponsor, failed]

theorem Outcome.sum_count (outcomes : List Outcome) :
    (Outcome.all.map fun outcome => outcomes.count outcome).sum = outcomes.length := by
  induction outcomes with
  | nil => rfl
  | cons outcome outcomes ih =>
    simp only [Outcome.all, List.map_cons, List.map_nil, List.sum_cons, List.sum_nil] at ih ⊢
    cases outcome <;> simp <;> omega

def Notification.linked? : Notification → Option String
  | .activationLink _ _ fingerprint => some fingerprint
  | .confirmation _ => none

namespace Registrar

inductive Doing
  | register (draw : Draw) (claims : Claims)
  | activate (course : Course) (draw : Draw) (token fingerprint : String)
  | finish (position : Nat) (isLost : Bool)

inductive Reply
  | registered (result : Except RegistrationError Registration)
  | activated (result : Except RegistrationError Participant)

def Doing.isCall : Doing → Bool
  | register .. | activate .. => true
  | finish .. => false

def happen (registrar : Registrar) : Doing → List Reply × Registrar
  | .register draw claims =>
    let (result, after) := registrar.register draw claims
    ([.registered result], after)
  | .activate course draw token fingerprint =>
    let (result, after) := registrar.activateUnder course draw token fingerprint
    ([.activated result], after)
  | .finish position isLost =>
    ([], { registrar with outbox := registrar.outbox.finish position isLost })

def after (registrar : Registrar) (doings : List Doing) : Registrar :=
  doings.foldl (fun registrar doing => (registrar.happen doing).2) registrar

def replies : Registrar → List Doing → List Reply
  | _, [] => []
  | registrar, doing :: doings =>
    (registrar.happen doing).1 ++ replies (registrar.happen doing).2 doings

def requested (registrar : Registrar) (doing : Doing) : List Notification :=
  if doing.isCall then
    (registrar.happen doing).2.outbox.pending.drop registrar.outbox.pending.length
  else []

def queue : Registrar → List Doing → List Notification
  | _, [] => []
  | registrar, doing :: doings =>
    registrar.requested doing ++ queue (registrar.happen doing).2 doings

def Reply.registration? : Reply → Option Registration
  | registered result => result.toOption
  | activated _ => none

def Reply.activation? : Reply → Option (Except RegistrationError Participant)
  | registered _ => none
  | activated result => some result

def registrations (replies : List Reply) : List Registration :=
  replies.filterMap Reply.registration?

def activations (replies : List Reply) : List (Except RegistrationError Participant) :=
  replies.filterMap Reply.activation?

def enrolments (replies : List Reply) : List Participant :=
  (activations replies).filterMap Except.toOption

def outcomes (replies : List Reply) : List Outcome := (activations replies).map outcome

theorem outcome_ne_activated (error : RegistrationError) : outcome (.error error) ≠ .activated := by
  cases error <;> simp [outcome]

theorem count_activated (replies : List Reply) :
    (outcomes replies).count .activated = (enrolments replies).length := by
  unfold outcomes enrolments
  induction activations replies with
  | nil => rfl
  | cons result results ih =>
    cases result with
    | ok participant => simpa [Except.toOption, outcome] using ih
    | error error =>
      rw [List.map_cons, List.count_cons_of_ne (outcome_ne_activated error), ih]
      rfl

def IsRowOf (cipher : EmailCipher) (participant : Participant) (row : Row) : Prop :=
  ∃ (nonce : Nonce) (id : Nat), row = Row.ofParticipant cipher nonce.bytes id participant

structure Books (before : Registrar) (replies : List Reply) (queue : List Notification)
    (after : Registrar) : Prop where
  cipher : after.store.cipher = before.store.cipher
  rows : ∃ rows, after.store.rows = before.store.rows ++ rows ∧
    List.Forall₂ (IsRowOf before.store.cipher) (enrolments replies) rows
  confirmations : queue.filterMap Notification.confirmed? =
    (enrolments replies).map Participant.email
  links : queue.filterMap Notification.linked? =
    (registrations replies).map Registration.fingerprint
  registered : after.tally.read .registrations =
    before.tally.read .registrations + (registrations replies).length
  activated (outcome : Outcome) : after.tally.read (.activations outcome) =
    before.tally.read (.activations outcome) + (outcomes replies).count outcome

theorem books_empty {before after : Registrar} (store : after.store = before.store)
    (tally : after.tally = before.tally) : Books before [] [] after where
  cipher := by rw [store]
  rows := ⟨[], by rw [store, List.append_nil], .nil⟩
  confirmations := rfl
  links := rfl
  registered := by rw [tally]; rfl
  activated _ := by rw [tally]; rfl

theorem Books.trans {before between after : Registrar} {earlier later : List Reply}
    {first second : List Notification} (start : Books before earlier first between)
    (rest : Books between later second after) :
    Books before (earlier ++ later) (first ++ second) after where
  cipher := rest.cipher.trans start.cipher
  rows := by
    obtain ⟨rows, stored, written⟩ := start.rows
    obtain ⟨others, grown, added⟩ := rest.rows
    rw [start.cipher] at added
    refine ⟨rows ++ others, by rw [grown, stored, List.append_assoc], ?_⟩
    simpa [enrolments, activations] using List.rel_append written added
  confirmations := by
    simp [start.confirmations, rest.confirmations, enrolments, activations]
  links := by simp [start.links, rest.links, registrations]
  registered := by
    simp [rest.registered, start.registered, registrations, Nat.add_assoc]
  activated outcome := by
    simp [rest.activated, start.activated, outcomes, activations, Nat.add_assoc]

section Calls

variable (registrar : Registrar) (draw : Draw) (claims : Claims)

theorem register_cases :
    (∃ registration link, ∀ store, { registrar with store }.register draw claims =
      (.ok registration, ({ registrar with store }.posted
        (.activationLink claims.email link registration.fingerprint)).counted .registrations)) ∨
    ∃ error, ∀ store, { registrar with store }.register draw claims =
      (.error error, { registrar with store }) := by
  cases valid : claims.violations with
  | nil =>
    cases issued : registrar.tokens.issue draw.entropy claims draw.now with
    | ok token =>
      let fingerprint := Token.fingerprint token
      refine .inl ⟨⟨fingerprint, token⟩, linkTo registrar.base.chars token fingerprint, ?_⟩
      intro store
      simp only [register, valid, issued]
      rfl
    | error fault =>
      refine .inr ⟨.unavailable (.text fault.message), ?_⟩
      intro store
      simp only [register, valid, issued]
  | cons violation violations =>
    refine .inr ⟨.invalid (violation :: violations), ?_⟩
    intro store
    simp only [register, valid]

structure Registers : Prop where
  unasked (store : Store) : { registrar with store }.register draw claims =
    ((registrar.register draw claims).1, { (registrar.register draw claims).2 with store })
  store : (registrar.register draw claims).2.store = registrar.store
  presence : (registrar.register draw claims).2.presence = registrar.presence
  queued (registration : Registration)
    (accepted : (registrar.register draw claims).1 = .ok registration) :
    ∃ link, (registrar.register draw claims).2.outbox =
      registrar.outbox.post (.activationLink claims.email link registration.fingerprint)
  silent (error : RegistrationError) (refused : (registrar.register draw claims).1 = .error error) :
    (registrar.register draw claims).2.outbox = registrar.outbox

theorem registers : registrar.Registers draw claims := by
  rcases registrar.register_cases draw claims with ⟨registration, link, accepted⟩ | ⟨error, refused⟩
  · have here := accepted registrar.store
    constructor
    case unasked => exact fun store => by rw [accepted store, here]; rfl
    case store | presence => rw [here]; rfl
    case queued =>
      intro other equal
      rw [here] at equal ⊢
      cases equal
      exact ⟨link, rfl⟩
    case silent =>
      intro error equal
      rw [here] at equal
      cases equal
  · have here := refused registrar.store
    constructor
    case unasked => exact fun store => by rw [refused store, here]
    case store | presence => rw [here]
    case queued =>
      intro other equal
      rw [here] at equal
      cases equal
    case silent => exact fun _ _ => by rw [here]

variable {registrar draw claims} {doing : Doing}

theorem requested_of_post {notification : Notification} (calls : doing.isCall = true)
    (posts : (registrar.happen doing).2.outbox = registrar.outbox.post notification) :
    registrar.requested doing = [notification] := by
  rw [requested, if_pos calls, posts]
  exact List.drop_left

theorem requested_of_silent (silent : (registrar.happen doing).2.outbox = registrar.outbox) :
    registrar.requested doing = [] := by
  rw [requested, silent, List.drop_length, ite_self]

theorem read_outcome (tally : Tally) (result : Except RegistrationError Participant)
    (other : Outcome) :
    (tally.count (.activations (outcome result))).read (.activations other) =
      tally.read (.activations other) + (outcomes [.activated result]).count other := by
  rw [Tally.read_count]
  by_cases same : outcome result = other
  · simp [outcomes, activations, Reply.activation?, same]
  · simp [outcomes, activations, Reply.activation?, same, Ne.symm same]

end Calls

section Entries

variable (registrar : Registrar)

theorem books_registered (registration : Registration) (contact link : String) :
    Books registrar [.registered (.ok registration)]
      [.activationLink contact link registration.fingerprint]
      ((registrar.posted (.activationLink contact link registration.fingerprint)).counted
        .registrations) where
  cipher := rfl
  rows := ⟨[], (List.append_nil _).symm, .nil⟩
  confirmations := rfl
  links := rfl
  registered := registrar.tally.read_count .registrations .registrations
  activated other := registrar.tally.read_count .registrations (.activations other)

theorem books_invalid (error : RegistrationError) :
    Books registrar [.registered (.error error)] [] registrar where
  cipher := rfl
  rows := ⟨[], (List.append_nil _).symm, .nil⟩
  confirmations := rfl
  links := rfl
  registered := rfl
  activated _ := rfl

theorem books_refused (error : RegistrationError) (lookups : Nat) :
    Books registrar [.activated (.error error)] [] (registrar.refused error lookups).2 where
  cipher := rfl
  rows := ⟨[], (List.append_nil _).symm, .nil⟩
  confirmations := rfl
  links := rfl
  registered := registrar.tally.read_count (.activations (outcome (.error error))) .registrations
  activated other := read_outcome registrar.tally (.error error) other

theorem books_enrolled {table : Table} (stored : registrar.store.table = some table)
    (nonce : Nonce) (participant : Participant) :
    Books registrar [.activated (.ok participant)] [.confirmation participant.email]
      (registrar.enrolled table nonce participant).2 where
  cipher := rfl
  rows := by
    refine ⟨[.ofParticipant registrar.store.cipher nonce.bytes table.nextId participant], ?_, ?_⟩
    · simp [enrolled, Store.grown, Store.rows, stored]
    · exact .cons ⟨nonce, table.nextId, rfl⟩ .nil
  confirmations := rfl
  links := rfl
  registered := registrar.tally.read_count (.activations .activated) .registrations
  activated other := read_outcome registrar.tally (.ok participant) other

end Entries

theorem books_happen (registrar : Registrar) (doing : Doing) :
    Books registrar (registrar.happen doing).1 (registrar.requested doing)
      (registrar.happen doing).2 := by
  cases doing with
  | finish position isLost => exact books_empty rfl rfl
  | register draw claims =>
    rcases registrar.register_cases draw claims with
      ⟨registration, link, accepted⟩ | ⟨error, refused⟩
    · have done : registrar.happen (.register draw claims) = _ :=
        congrArg (fun state => ([Reply.registered state.1], state.2)) (accepted registrar.store)
      rw [requested_of_post rfl (by rw [done]; rfl), done]
      exact registrar.books_registered registration claims.email link
    · have done : registrar.happen (.register draw claims) = _ :=
        congrArg (fun state => ([Reply.registered state.1], state.2)) (refused registrar.store)
      rw [requested_of_silent (by rw [done]), done]
      exact registrar.books_invalid error
  | activate course draw token fingerprint =>
    obtain ⟨reply, ends⟩ := registrar.exists_ends course draw token fingerprint
    have done : registrar.happen (.activate course draw token fingerprint) = _ :=
      congrArg (fun state => ([Reply.activated state.1], state.2)) ends.activateUnder
    rcases ends.reply_cases with ⟨error, lookups, rfl⟩ | ⟨claims, table, -, stored, rfl⟩
    · rw [requested_of_silent (by rw [done]; rfl), done]
      exact registrar.books_refused error lookups
    · rw [requested_of_post rfl (by rw [done]; rfl), done]
      exact registrar.books_enrolled stored _ _

theorem books_run (registrar : Registrar) (doings : List Doing) :
    Books registrar (registrar.replies doings) (registrar.queue doings)
      (registrar.after doings) := by
  induction doings generalizing registrar with
  | nil => exact books_empty rfl rfl
  | cons doing doings ih => exact (registrar.books_happen doing).trans (ih _)

theorem Agree.happen {left right : Registrar} (agree : left.Agree right) (doing : Doing) :
    Alike (left.happen doing) (right.happen doing) := by
  cases doing with
  | register draw claims =>
    obtain ⟨result, agree⟩ := agree.register draw claims
    exact ⟨congrArg (fun result => [Reply.registered result]) result, agree⟩
  | activate course draw token fingerprint =>
    obtain ⟨result, agree⟩ := agree.activateUnder course draw token fingerprint
    exact ⟨congrArg (fun result => [Reply.activated result]) result, agree⟩
  | finish position isLost =>
    refine ⟨rfl, ?_⟩
    rw [← agree]
    rfl

theorem agree_finish (registrar : Registrar) {doing : Doing} (ends : doing.isCall = false) :
    (registrar.happen doing).1 = [] ∧ (registrar.happen doing).2.Agree registrar := by
  cases doing with
  | register | activate => cases ends
  | finish position isLost => exact ⟨rfl, rfl⟩

theorem Agree.run {left right : Registrar} (agree : left.Agree right) (doings : List Doing) :
    left.replies doings = right.replies (doings.filter Doing.isCall) ∧
      (left.after doings).Agree (right.after (doings.filter Doing.isCall)) := by
  induction doings generalizing left right with
  | nil => exact ⟨rfl, agree⟩
  | cons doing doings ih =>
    cases calls : doing.isCall with
    | true =>
      obtain ⟨result, stepped⟩ := agree.happen doing
      obtain ⟨replies, agrees⟩ := ih stepped
      rw [List.filter_cons_of_pos calls]
      simp only [replies, Registrar.replies, result]
      exact ⟨trivial, agrees⟩
    | false =>
      obtain ⟨silent, ended⟩ := left.agree_finish calls
      obtain ⟨replies, agrees⟩ := ih (ended.trans agree)
      rw [List.filter_cons_of_neg (by simp [calls]), Registrar.replies, silent]
      exact ⟨replies, agrees⟩

theorem agree_of_calls (registrar : Registrar) {doings others : List Doing}
    (same : others.filter Doing.isCall = doings.filter Doing.isCall) :
    registrar.replies others = registrar.replies doings ∧
      (registrar.after others).Agree (registrar.after doings) := by
  have agree : registrar.Agree registrar := rfl
  obtain ⟨replies, agrees⟩ := agree.run doings
  obtain ⟨replies', agrees'⟩ := agree.run others
  rw [same] at replies' agrees'
  exact ⟨replies'.trans replies.symm, agrees'.trans agrees.symm⟩

def Doing.isActivation : Doing → Bool
  | activate .. => true
  | register .. | finish .. => false

theorem length_activations (registrar : Registrar) (doings : List Doing) :
    (activations (registrar.replies doings)).length = doings.countP Doing.isActivation := by
  induction doings generalizing registrar with
  | nil => rfl
  | cons doing doings ih =>
    have first : (activations (registrar.happen doing).1).length =
        if doing.isActivation then 1 else 0 := by cases doing <;> rfl
    have others := ih (registrar.happen doing).2
    rw [activations] at first others
    rw [replies, activations, List.filterMap_append, List.length_append, first, others,
      List.countP_cons, Nat.add_comm]

theorem Books.sum_activated {before after : Registrar} {replies : List Reply}
    {queue : List Notification} (books : Books before replies queue after) :
    (Outcome.all.map fun outcome => after.tally.read (.activations outcome)).sum =
      (Outcome.all.map fun outcome => before.tally.read (.activations outcome)).sum +
        (activations replies).length := by
  have counted := Outcome.sum_count (outcomes replies)
  rw [outcomes, List.length_map] at counted
  rw [← counted]
  simp only [books.activated, Outcome.all, List.map_cons, List.map_nil, List.sum_cons,
    List.sum_nil, outcomes]
  omega

theorem books_balance (registrar : Registrar) (doings : List Doing) :
    let later := registrar.after doings
    let replies := registrar.replies doings
    let confirmed := (registrar.queue doings).filterMap Notification.confirmed?
    (∀ draw claims, later.Registers draw claims) ∧
      (∃ rows, later.store.rows = registrar.store.rows ++ rows ∧
        rows.length = (enrolments replies).length ∧
        List.Forall₂ (IsRowOf registrar.store.cipher) (enrolments replies) rows) ∧
      confirmed = (enrolments replies).map Participant.email ∧
      confirmed.length = (enrolments replies).length ∧
      later.tally.read (.activations .activated) =
        registrar.tally.read (.activations .activated) + (enrolments replies).length ∧
      later.tally.read .registrations =
        registrar.tally.read .registrations + (registrations replies).length ∧
      (Outcome.all.map fun outcome => later.tally.read (.activations outcome)).sum =
        (Outcome.all.map fun outcome => registrar.tally.read (.activations outcome)).sum +
          (activations replies).length ∧
      (activations replies).length = doings.countP Doing.isActivation ∧
      ∀ others, others.filter Doing.isCall = doings.filter Doing.isCall →
        registrar.replies others = replies ∧ (registrar.after others).Agree later := by
  intro later replies confirmed
  have books : Books registrar replies (registrar.queue doings) later := registrar.books_run doings
  refine ⟨later.registers, ?_, books.confirmations, ?_, ?_, books.registered, books.sum_activated,
    registrar.length_activations doings, fun others same => registrar.agree_of_calls same⟩
  case refine_1 =>
    obtain ⟨rows, stored, written⟩ := books.rows
    exact ⟨rows, stored, written.length_eq.symm, written⟩
  case refine_2 => exact (congrArg List.length books.confirmations).trans (List.length_map _)
  case refine_3 => rw [books.activated, count_activated]

def sent : List Doing :=
  [.register ⟨Office.enrolledAt, []⟩ Office.newcomer, .finish 0 false]

def lost : List Doing :=
  [.register ⟨Office.enrolledAt, []⟩ Office.newcomer, .finish 0 true, .finish 0 true]

theorem books_balance_lost :
    Registrar.replies Office.frontDesk lost = Registrar.replies Office.frontDesk sent ∧
      (Registrar.after Office.frontDesk lost).Agree (Registrar.after Office.frontDesk sent) := by
  obtain ⟨-, -, -, -, -, -, -, -, alike⟩ := books_balance Office.frontDesk sent
  exact alike lost rfl

end Registrar

end Enrolment
