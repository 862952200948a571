import Enrolment.Proofs.Activation.Steps
import Enrolment.Proofs.Store.Roster

set_option autoImplicit false

namespace Enrolment

structure Weather where
  failing : List Statement := []
  hidden : List String := []
  online : Bool := true

namespace Store

def weather (store : Store) : Weather := ⟨store.failing, store.hidden, store.online⟩

def under (store : Store) (weather : Weather) : Store :=
  { store with failing := weather.failing, hidden := weather.hidden, online := weather.online }

variable (store : Store) (weather : Weather)

def Answers (statement : Statement) (table : Table) : Prop :=
  (store.under weather).reach statement = .ok table

def Fails (statement : Statement) (cause : Cause) : Prop :=
  (store.under weather).reach statement = .error (.backend cause)

def Finds (address : String) : Prop :=
  (∃ table, store.Answers weather .exist table) ∧
    address ∈ store.addresses ∧ address ∉ weather.hidden

def Misses (address : String) : Prop :=
  (∃ table, store.Answers weather .exist table) ∧
    ¬(address ∈ store.addresses ∧ address ∉ weather.hidden)

theorem answers_or_fails (statement : Statement) :
    (∃ table, store.Answers weather statement table) ∨
      ∃ cause, store.Fails weather statement cause := by
  unfold Answers Fails reach
  split
  · exact .inr ⟨_, rfl⟩
  split
  · exact .inr ⟨_, rfl⟩
  split
  · exact .inl ⟨_, rfl⟩
  split
  · exact .inr ⟨_, rfl⟩
  · exact .inl ⟨_, rfl⟩

theorem finds_or_misses_or_fails (address : String) :
    store.Finds weather address ∨ store.Misses weather address ∨
      ∃ cause, store.Fails weather .exist cause := by
  rcases store.answers_or_fails weather .exist with answers | fails
  · by_cases found : address ∈ store.addresses ∧ address ∉ weather.hidden
    · exact .inl ⟨answers, found⟩
    · exact .inr (.inl ⟨answers, found⟩)
  · exact .inr (.inr fails)

variable {store weather} {address : String} {table : Table} {cause : Cause} {nonce : Bytes}
  {participant : Participant}

theorem Answers.stored {statement : Statement} (needs : statement.needsTable = true)
    (answers : store.Answers weather statement table) : store.table = some table := by
  have stored : (store.under weather).table = some table := table_of_reach needs answers
  exact stored

theorem Answers.contains (answers : store.Answers weather .exist table) :
    (store.under weather).contains address =
      .ok (decide (address ∈ store.addresses ∧ address ∉ weather.hidden)) := by
  have known := table.contains_iff address
  rw [← addresses_of_table (answers.stored rfl)] at known
  unfold Answers at answers
  simp only [Store.contains, answers, bind, Except.bind, pure, Except.pure]
  change Except.ok (table.contains address && !weather.hidden.contains address) = _
  rw [Except.ok.injEq, Bool.eq_iff_iff]
  simp [known]

theorem Finds.lookUp (finds : store.Finds weather address) :
    (store.under weather).lookUp address =
      (.ok true, { store.under weather with lookups := store.lookups + 1 }) := by
  obtain ⟨⟨table, answers⟩, seen⟩ := finds
  rw [Store.lookUp, answers.contains, decide_eq_true seen]
  rfl

theorem Misses.lookUp (misses : store.Misses weather address) :
    (store.under weather).lookUp address =
      (.ok false, { store.under weather with lookups := store.lookups + 1 }) := by
  obtain ⟨⟨table, answers⟩, unseen⟩ := misses
  rw [Store.lookUp, answers.contains, decide_eq_false unseen]
  rfl

theorem Fails.lookUp (fails : store.Fails weather .exist cause) :
    (store.under weather).lookUp address =
      (.error (.backend cause), { store.under weather with lookups := store.lookups + 1 }) := by
  unfold Fails at fails
  simp only [Store.lookUp, Store.contains, fails]
  rfl

theorem Fails.persist (fails : store.Fails weather .persist cause) :
    (store.under weather).persist nonce participant =
      (.error (.backend cause), store.under weather) := by
  unfold Fails at fails
  simp only [Store.persist, fails]
  rfl

theorem Answers.persist_taken (answers : store.Answers weather .persist table)
    (taken : participant.address ∈ store.addresses) :
    (store.under weather).persist nonce participant =
      (.error (.duplicate participant.address), store.under weather) :=
  persist_duplicate nonce answers taken

def grown (store : Store) (table : Table) (nonce : Bytes) (participant : Participant) : Store :=
  { store with table := some (table.add store.cipher nonce participant) }

theorem Answers.persist_new (answers : store.Answers weather .persist table)
    (new : participant.address ∉ store.addresses) :
    (store.under weather).persist nonce participant =
      (.ok (), (store.under weather).grown table nonce participant) := by
  have free : table.contains participant.address = false := by
    rw [addresses_of_table (answers.stored rfl), ← table.contains_iff] at new
    exact eq_false_of_ne_true new
  unfold Answers at answers
  simp only [Store.persist, answers, bind, Except.bind, Table.insert, free]
  rfl

end Store

structure Course where
  addressLookup : Weather
  sponsorLookup : Weather
  insertion : Weather

def Course.steady (weather : Weather) : Course := ⟨weather, weather, weather⟩

namespace Registrar

def advanceUnder (weather : Weather) (draw : Draw) (state : Activation × Registrar) :
    Activation × Registrar :=
  let (activation, after) :=
    { state.2 with store := state.2.store.under weather }.advance draw state.1
  (activation, { after with store := after.store.under state.2.store.weather })

def answer : Activation × Registrar → Except RegistrationError Participant × Registrar
  | (.finished result, registrar) => (result, registrar)
  | (_, registrar) => (.error .unauthorized, registrar)

def activateUnder (registrar : Registrar) (course : Course) (draw : Draw)
    (token fingerprint : String) : Except RegistrationError Participant × Registrar :=
  let state := registrar.beginActivation draw.now token fingerprint
  let state := advanceUnder course.addressLookup draw state
  let state := advanceUnder course.sponsorLookup draw state
  let state := advanceUnder course.insertion draw state
  -- What follows the insertion puts nothing more to the store.
  answer (state.2.advance draw state.1)

theorem advance_weather (registrar : Registrar) (draw : Draw) (activation : Activation) :
    (registrar.advance draw activation).2.store.weather = registrar.store.weather := by
  cases activation with
  | lookingUpAddress claims =>
    simp only [advance]
    split <;> rfl
  | lookingUpSponsor claims =>
    simp only [advance]
    split <;> rfl
  | inserting participant =>
    have kept : (registrar.store.persist draw.nonce.bytes participant).2.weather =
        registrar.store.weather := by
      simp only [Store.persist]
      split <;> rfl
    simp only [advance]
    split <;> exact kept
  | inserted participant => rfl
  | finished result => rfl

theorem advanceUnder_own (draw : Draw) (activation : Activation) (registrar : Registrar) :
    advanceUnder registrar.store.weather draw (activation, registrar) =
      registrar.advance draw activation := by
  have kept := registrar.advance_weather draw activation
  change ((registrar.advance draw activation).1,
    { (registrar.advance draw activation).2 with
      store := (registrar.advance draw activation).2.store.under registrar.store.weather }) = _
  rw [← kept]
  rfl

theorem activate_eq (registrar : Registrar) (draw : Draw) (token fingerprint : String) :
    registrar.activate draw token fingerprint =
      registrar.activateUnder (.steady registrar.store.weather) draw token fingerprint := by
  have begun : (registrar.beginActivation draw.now token fingerprint).2.store.weather =
      registrar.store.weather := by
    rcases registrar.beginActivation_cases draw.now token fingerprint with
      ⟨claims, -, begun⟩ | ⟨error, begun⟩
    · rw [begun]
    · rw [begun]
      rfl
  have step (state : Activation × Registrar)
      (same : state.2.store.weather = registrar.store.weather) :
      advanceUnder registrar.store.weather draw state = state.2.advance draw state.1 ∧
        (state.2.advance draw state.1).2.store.weather = registrar.store.weather := by
    rw [← same]
    exact ⟨advanceUnder_own draw state.1 state.2, state.2.advance_weather draw state.1⟩
  have first := step _ begun
  have second := step _ first.2
  have third := step _ second.2
  simp only [activateUnder, Course.steady, first.1, second.1, third.1]
  rfl

def asked (registrar : Registrar) (lookups : Nat) : Registrar :=
  { registrar with
    store := { registrar.store with lookups := registrar.store.lookups + lookups } }

def refused (registrar : Registrar) (error : RegistrationError) (lookups : Nat) :
    Except RegistrationError Participant × Registrar :=
  (.error error, (registrar.asked lookups).counted (.activations (outcome (.error error))))

def enrolled (registrar : Registrar) (table : Table) (nonce : Nonce) (participant : Participant) :
    Except RegistrationError Participant × Registrar :=
  (.ok participant, { registrar with
    store := { registrar.store.grown table nonce.bytes participant with
      lookups := registrar.store.lookups + 2 }
    presence := registrar.presence.add participant.address participant.activatedAt
    outbox := { registrar.outbox with
      pending := registrar.outbox.pending ++ [.confirmation participant.email] }
    tally := registrar.tally.count (.activations .activated) })

inductive Settles (registrar : Registrar) (course : Course) (draw : Draw) (claims : Claims) :
    Except RegistrationError Participant × Registrar → Prop
  | addressUnanswered {cause : Cause}
      (fails : registrar.store.Fails course.addressLookup .exist cause) :
      Settles registrar course draw claims
        (registrar.refused (.unavailable (.store (.backend cause))) 1)
  | addressKnown (found : registrar.store.Finds course.addressLookup claims.address) :
      Settles registrar course draw claims (registrar.refused (.conflict claims.address) 1)
  | sponsorUnanswered {cause : Cause}
      (free : registrar.store.Misses course.addressLookup claims.address)
      (fails : registrar.store.Fails course.sponsorLookup .exist cause) :
      Settles registrar course draw claims
        (registrar.refused (.unavailable (.store (.backend cause))) 2)
  | sponsorUnknown (free : registrar.store.Misses course.addressLookup claims.address)
      (unknown : registrar.store.Misses course.sponsorLookup claims.sponsor) :
      Settles registrar course draw claims
        (registrar.refused (.unknownSponsor claims.sponsor) 2)
  | insertionUnanswered {cause : Cause}
      (free : registrar.store.Misses course.addressLookup claims.address)
      (sponsored : registrar.store.Finds course.sponsorLookup claims.sponsor)
      (fails : registrar.store.Fails course.insertion .persist cause) :
      Settles registrar course draw claims
        (registrar.refused (.unavailable (.store (.backend cause))) 2)
  -- The row was there, and the lookup had not seen it.
  | addressTaken {table : Table}
      (free : registrar.store.Misses course.addressLookup claims.address)
      (sponsored : registrar.store.Finds course.sponsorLookup claims.sponsor)
      (answers : registrar.store.Answers course.insertion .persist table)
      (taken : claims.address ∈ registrar.store.addresses) :
      Settles registrar course draw claims (registrar.refused (.conflict claims.address) 2)
  | enrolled {table : Table}
      (free : registrar.store.Misses course.addressLookup claims.address)
      (sponsored : registrar.store.Finds course.sponsorLookup claims.sponsor)
      (answers : registrar.store.Answers course.insertion .persist table)
      (new : claims.address ∉ registrar.store.addresses) :
      Settles registrar course draw claims
        (registrar.enrolled table draw.nonce
          (.ofClaims claims (Uuid.random draw.entropy) draw.now))

inductive Ends (registrar : Registrar) (course : Course) (draw : Draw)
    (token fingerprint : String) : Except RegistrationError Participant × Registrar → Prop
  | misshapen (shape : Token.isWellFormed token = false) :
      Ends registrar course draw token fingerprint (registrar.refused .unauthorized 0)
  | mismatched (differs : Token.fingerprint token ≠ fingerprint) :
      Ends registrar course draw token fingerprint (registrar.refused .unauthorized 0)
  | rejected {rejection : Token.Rejection}
      (refused : registrar.tokens.extract token draw.now = .error rejection) :
      Ends registrar course draw token fingerprint (registrar.refused .unauthorized 0)
  | authorized {claims : Claims} {reply : Except RegistrationError Participant × Registrar}
      (shape : Token.isWellFormed token = true)
      (matching : Token.fingerprint token = fingerprint)
      (extracted : registrar.tokens.extract token draw.now = .ok claims)
      (settles : registrar.Settles course draw claims reply) :
      Ends registrar course draw token fingerprint reply

variable {registrar : Registrar} {course : Course} {draw : Draw} {token fingerprint : String}
  {claims : Claims} {reply : Except RegistrationError Participant × Registrar}

theorem exists_settles (registrar : Registrar) (course : Course) (draw : Draw) (claims : Claims) :
    ∃ reply, registrar.Settles course draw claims reply := by
  rcases registrar.store.finds_or_misses_or_fails course.addressLookup claims.address with
    found | free | ⟨cause, fails⟩
  · exact ⟨_, .addressKnown found⟩
  · rcases registrar.store.finds_or_misses_or_fails course.sponsorLookup claims.sponsor with
      sponsored | unknown | ⟨cause, fails⟩
    · rcases registrar.store.answers_or_fails course.insertion .persist with
        ⟨table, answers⟩ | ⟨cause, fails⟩
      · by_cases taken : claims.address ∈ registrar.store.addresses
        · exact ⟨_, .addressTaken free sponsored answers taken⟩
        · exact ⟨_, .enrolled free sponsored answers taken⟩
      · exact ⟨_, .insertionUnanswered free sponsored fails⟩
    · exact ⟨_, .sponsorUnknown free unknown⟩
    · exact ⟨_, .sponsorUnanswered free fails⟩
  · exact ⟨_, .addressUnanswered fails⟩

theorem exists_ends (registrar : Registrar) (course : Course) (draw : Draw)
    (token fingerprint : String) : ∃ reply, registrar.Ends course draw token fingerprint reply := by
  by_cases shape : Token.isWellFormed token = true
  · by_cases matching : Token.fingerprint token = fingerprint
    · cases extracted : registrar.tokens.extract token draw.now with
      | error rejection => exact ⟨_, .rejected extracted⟩
      | ok claims =>
        obtain ⟨reply, settles⟩ := registrar.exists_settles course draw claims
        exact ⟨reply, .authorized shape matching extracted settles⟩
    · exact ⟨_, .mismatched matching⟩
  · exact ⟨_, .misshapen (eq_false_of_ne_true shape)⟩

theorem advanceUnder_free {weather : Weather}
    (free : registrar.store.Misses weather claims.address) :
    advanceUnder weather draw (.lookingUpAddress claims, registrar) =
      (.lookingUpSponsor claims, registrar.asked 1) := by
  simp only [advanceUnder, advance, free.lookUp]
  rfl

theorem advanceUnder_sponsored (free : registrar.store.Misses course.addressLookup claims.address)
    (sponsored : registrar.store.Finds course.sponsorLookup claims.sponsor) :
    advanceUnder course.sponsorLookup draw
        (advanceUnder course.addressLookup draw (.lookingUpAddress claims, registrar)) =
      (.inserting (.ofClaims claims (Uuid.random draw.entropy) draw.now), registrar.asked 2) := by
  have sponsored : (registrar.asked 1).store.Finds course.sponsorLookup claims.sponsor := sponsored
  rw [advanceUnder_free free]
  simp only [advanceUnder, advance, sponsored.lookUp]
  rfl

theorem Settles.activateUnder (settles : registrar.Settles course draw claims reply)
    (authorized : registrar.authorize draw.now token fingerprint = .ok claims) :
    registrar.activateUnder course draw token fingerprint = reply := by
  simp only [Registrar.activateUnder, beginActivation, authorized]
  cases settles with
  | addressUnanswered fails =>
    simp only [advanceUnder, advance, fails.lookUp]
    rfl
  | addressKnown found =>
    simp only [advanceUnder, advance, found.lookUp]
    rfl
  | sponsorUnanswered free fails =>
    -- The lookups before are counted, and nothing is answered from their number.
    have fails : (registrar.asked 1).store.Fails course.sponsorLookup .exist _ := fails
    rw [advanceUnder_free free]
    simp only [advanceUnder, advance, fails.lookUp]
    rfl
  | sponsorUnknown free unknown =>
    have unknown : (registrar.asked 1).store.Misses course.sponsorLookup claims.sponsor := unknown
    rw [advanceUnder_free free]
    simp only [advanceUnder, advance, unknown.lookUp]
    rfl
  | insertionUnanswered free sponsored fails =>
    have fails : (registrar.asked 2).store.Fails course.insertion .persist _ := fails
    rw [advanceUnder_sponsored free sponsored]
    simp only [advanceUnder, advance, fails.persist]
    rfl
  | addressTaken free sponsored answers taken =>
    have answers : (registrar.asked 2).store.Answers course.insertion .persist _ := answers
    have taken : (Participant.ofClaims claims (Uuid.random draw.entropy) draw.now).address ∈
        (registrar.asked 2).store.addresses := taken
    rw [advanceUnder_sponsored free sponsored]
    simp only [advanceUnder, advance, answers.persist_taken taken]
    rfl
  | enrolled free sponsored answers new =>
    have answers : (registrar.asked 2).store.Answers course.insertion .persist _ := answers
    have new : (Participant.ofClaims claims (Uuid.random draw.entropy) draw.now).address ∉
        (registrar.asked 2).store.addresses := new
    rw [advanceUnder_sponsored free sponsored]
    simp only [advanceUnder, advance, answers.persist_new new]
    rfl

theorem activateUnder_unauthorized
    (refused : registrar.authorize draw.now token fingerprint = .error .unauthorized) :
    registrar.activateUnder course draw token fingerprint =
      registrar.refused .unauthorized 0 := by
  simp only [activateUnder, beginActivation, refused]
  rfl

theorem Ends.activateUnder (ends : registrar.Ends course draw token fingerprint reply) :
    registrar.activateUnder course draw token fingerprint = reply := by
  cases ends with
  | misshapen shape =>
    exact activateUnder_unauthorized (by simp [authorize, isPresentable, shape])
  | mismatched differs =>
    exact activateUnder_unauthorized (by simp [authorize, isPresentable, differs])
  | rejected refused => exact activateUnder_unauthorized (by simp [authorize, refused])
  | authorized shape matching extracted settles =>
    exact settles.activateUnder (by simp [authorize, isPresentable, shape, matching, extracted])

theorem ends_iff : registrar.Ends course draw token fingerprint reply ↔
    registrar.activateUnder course draw token fingerprint = reply := by
  refine ⟨Ends.activateUnder, fun settled => ?_⟩
  -- There is one way to end at least, and each way leads to the reply.
  obtain ⟨other, ends⟩ := registrar.exists_ends course draw token fingerprint
  rwa [← settled, ends.activateUnder]

theorem Ends.reply_cases (ends : registrar.Ends course draw token fingerprint reply) :
    (∃ error lookups, reply = registrar.refused error lookups) ∨
      ∃ claims table, registrar.tokens.extract token draw.now = .ok claims ∧
        registrar.store.table = some table ∧
        reply = registrar.enrolled table draw.nonce
          (.ofClaims claims (Uuid.random draw.entropy) draw.now) := by
  cases ends with
  | misshapen | mismatched | rejected => exact .inl ⟨_, _, rfl⟩
  | authorized shape matching extracted settles =>
    cases settles with
    | enrolled free sponsored answers new =>
      exact .inr ⟨_, _, extracted, answers.stored rfl, rfl⟩
    | _ => exact .inl ⟨_, _, rfl⟩

def Spares (registrar : Registrar) (error : RegistrationError) (after : Registrar) : Prop :=
  ∃ lookups, after = { registrar with
    store := { registrar.store with lookups }
    tally := registrar.tally.count (.activations (outcome (.error error))) }

structure Enrols (registrar : Registrar) (claims : Claims) (participant : Participant)
    (after : Registrar) : Prop where
  address : participant.address = claims.address
  email : participant.email = claims.email
  sponsor : participant.sponsor = claims.sponsor
  row : ∃ row, after.store.rows = registrar.store.rows ++ [row] ∧
    row.address = claims.address ∧ row.sponsor = claims.sponsor ∧ row.uuid = participant.uuid ∧
    row.activatedAt = participant.activatedAt.toMicros ∧
    registrar.store.cipher.opened claims.address row.sealedEmail = .ok claims.email ∧
    ∃ nonce : Nonce,
      row.sealedEmail = registrar.store.cipher.sealed nonce.bytes claims.address claims.email
  presence : ∀ address, after.presence.firstSeen? address =
    if address = claims.address then some participant.activatedAt
    else registrar.presence.firstSeen? address
  pending : after.outbox.pending = registrar.outbox.pending ++ [.confirmation claims.email]
  elsewhere : ∃ table lookups presence, after = { registrar with
    store := { registrar.store with table, lookups }
    presence := presence
    outbox := { registrar.outbox with pending := after.outbox.pending }
    tally := registrar.tally.count (.activations .activated) }

theorem enrols_enrolled {table : Table} (stored : registrar.store.table = some table)
    (nonce : Nonce) (uuid : Uuid) (now : Instant) :
    registrar.Enrols claims (.ofClaims claims uuid now)
      (registrar.enrolled table nonce (.ofClaims claims uuid now)).2 where
  address := rfl
  email := rfl
  sponsor := rfl
  row := by
    refine ⟨Row.ofParticipant registrar.store.cipher nonce.bytes table.nextId _, ?_, rfl, rfl, rfl,
      rfl, ?_, nonce, rfl⟩
    · simp [enrolled, Store.grown, Store.rows, stored]
    · exact registrar.store.cipher.opened_sealed (Nat.le_of_eq nonce.size.symm) _ _
  presence address := registrar.presence.firstSeen?_add claims.address address now
  pending := rfl
  elsewhere := ⟨_, _, _, rfl⟩

theorem activateUnder_ends (registrar : Registrar) (course : Course) (draw : Draw)
    (token fingerprint : String) :
    registrar.activate draw token fingerprint =
        registrar.activateUnder (.steady registrar.store.weather) draw token fingerprint ∧
      (∀ reply, registrar.activateUnder course draw token fingerprint = reply ↔
        registrar.Ends course draw token fingerprint reply) ∧
      (∀ error after, registrar.activateUnder course draw token fingerprint = (.error error, after) →
        registrar.Spares error after) ∧
      ∀ participant after,
        registrar.activateUnder course draw token fingerprint = (.ok participant, after) →
          ∃ claims, registrar.tokens.extract token draw.now = .ok claims ∧
            registrar.Enrols claims participant after := by
  refine ⟨registrar.activate_eq draw token fingerprint, fun reply => ends_iff.symm,
    fun error after settled => ?_, fun participant after settled => ?_⟩
  · rcases (ends_iff.mpr settled).reply_cases with
      ⟨_, lookups, reply⟩ | ⟨claims, table, -, -, reply⟩
    · cases reply
      exact ⟨_, rfl⟩
    · cases reply
  · rcases (ends_iff.mpr settled).reply_cases with
      ⟨_, lookups, reply⟩ | ⟨claims, table, extracted, stored, reply⟩
    · cases reply
    · cases reply
      exact ⟨claims, extracted, enrols_enrolled stored _ _ _⟩

end Registrar

end Enrolment
