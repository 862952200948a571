import Enrolment.Proofs.Store.Statements
import Enrolment.Registrar

set_option autoImplicit false

namespace Enrolment

namespace Registrar

namespace Activation

def claims? : Activation → Option Claims
  | lookingUpAddress claims => some claims
  | lookingUpSponsor claims => some claims
  | inserting participant => some ⟨participant.address, participant.email, participant.sponsor⟩
  | inserted participant => some ⟨participant.address, participant.email, participant.sponsor⟩
  | finished (.ok participant) =>
    some ⟨participant.address, participant.email, participant.sponsor⟩
  | finished (.error _) => none

def holder? : Activation → Option Participant
  | inserted participant => some participant
  | finished (.ok participant) => some participant
  | _ => none

def result? : Activation → Option (Except RegistrationError Participant)
  | finished result => some result
  | _ => none

def isPending : Activation → Bool
  | lookingUpAddress _ | lookingUpSponsor _ | inserting _ => true
  | inserted _ | finished _ => false

inductive Moves (addresses : List String) : Activation → Activation → Prop
  | free (claims : Claims) : Moves addresses (.lookingUpAddress claims) (.lookingUpSponsor claims)
  | sponsored (claims : Claims) (uuid : Uuid) (now : Instant)
      (known : claims.sponsor ∈ addresses) :
      Moves addresses (.lookingUpSponsor claims) (.inserting (.ofClaims claims uuid now))
  | confirmed (participant : Participant) :
      Moves addresses (.inserted participant) (.finished (.ok participant))
  | failed (activation : Activation) (error : RegistrationError)
      (unsettled : activation.result? = none) :
      Moves addresses activation (.finished (.error error))
  | still (activation : Activation) : Moves addresses activation activation

variable {addresses : List String} {before after : Activation}

theorem Moves.claims? (moves : Moves addresses before after) {claims : Claims}
    (carried : after.claims? = some claims) : before.claims? = some claims := by
  cases moves with
  | failed => cases carried
  | free | sponsored | confirmed | still => exact carried

theorem Moves.holder? (moves : Moves addresses before after) {participant : Participant}
    (holds : after.holder? = some participant) : before.holder? = some participant := by
  cases moves with
  | free | sponsored | failed => cases holds
  | confirmed | still => exact holds

theorem Moves.result? (moves : Moves addresses before after)
    {result : Except RegistrationError Participant} (returned : before.result? = some result) :
    after.result? = some result := by
  cases moves with
  | free | sponsored | confirmed => cases returned
  | failed activation error unsettled => cases returned.symm.trans unsettled
  | still => exact returned

theorem Moves.isPending (moves : Moves addresses before after) (pending : after.isPending = true) :
    before.isPending = true := by
  cases moves with
  | free | sponsored => rfl
  | confirmed | failed => cases pending
  | still => exact pending

theorem Moves.inserting {participant : Participant}
    (moves : Moves addresses before (.inserting participant)) :
    before = .inserting participant ∨ participant.sponsor ∈ addresses := by
  cases moves with
  | sponsored claims uuid now known => exact .inr known
  | still => exact .inl rfl

end Activation

structure Keeps (before after : Registrar) : Prop where
  tokens : after.tokens = before.tokens
  cipher : after.store.cipher = before.store.cipher

inductive Steps (before : Registrar) : Activation → Activation → Registrar → Prop
  | moved {activation next : Activation} {after : Registrar} (keeps : before.Keeps after)
      (rows : after.store.rows = before.store.rows)
      (moves : activation.Moves before.store.addresses next) :
      Steps before activation next after
  | wrote {participant : Participant} {nonce : Nonce} {id : Nat} {after : Registrar}
      (keeps : before.Keeps after)
      (writes : before.store.Writes nonce.bytes participant id after.store) :
      Steps before (.inserting participant) (.inserted participant) after

theorem Steps.conclude {before : Registrar} (registrar : Registrar) (activation : Activation)
    (result : Except RegistrationError Participant) (keeps : before.Keeps registrar)
    (rows : registrar.store.rows = before.store.rows)
    (moves : activation.Moves before.store.addresses (.finished result)) :
    before.Steps activation (registrar.conclude result).1 (registrar.conclude result).2 :=
  .moved ⟨keeps.tokens, keeps.cipher⟩ rows moves

theorem register_keeps (registrar : Registrar) (draw : Draw) (claims : Claims) :
    registrar.Keeps (registrar.register draw claims).2 ∧
      (registrar.register draw claims).2.store = registrar.store := by
  unfold register
  split
  · split <;> exact ⟨⟨rfl, rfl⟩, rfl⟩
  · exact ⟨⟨rfl, rfl⟩, rfl⟩

theorem advance_steps (registrar : Registrar) (draw : Draw) (activation : Activation) :
    registrar.Steps activation (registrar.advance draw activation).1
      (registrar.advance draw activation).2 := by
  cases activation with
  | lookingUpAddress claims =>
    simp only [advance]
    split
    · exact .conclude _ _ _ ⟨rfl, rfl⟩ rfl (.failed _ _ rfl)
    · exact .moved ⟨rfl, rfl⟩ rfl (.free claims)
    · exact .conclude _ _ _ ⟨rfl, rfl⟩ rfl (.failed _ _ rfl)
  | lookingUpSponsor claims =>
    simp only [advance]
    split
    next found =>
      exact .moved ⟨rfl, rfl⟩ rfl (.sponsored claims _ _ (Store.mem_addresses_of_lookUp found))
    · exact .conclude _ _ _ ⟨rfl, rfl⟩ rfl (.failed _ _ rfl)
    · exact .conclude _ _ _ ⟨rfl, rfl⟩ rfl (.failed _ _ rfl)
  | inserting participant =>
    -- The only step that can write; the lookups before it change nothing but their count.
    rcases registrar.store.persist_cases draw.nonce.bytes participant with
      ⟨id, stored, writes⟩ | ⟨error, refused⟩
    · simp only [advance, stored]
      exact .wrote ⟨rfl, writes.cipher⟩ writes
    · simp only [advance, refused]
      exact .conclude _ _ _ ⟨rfl, rfl⟩ rfl (.failed _ _ rfl)
  | inserted participant => exact .conclude _ _ _ ⟨rfl, rfl⟩ rfl (.confirmed participant)
  | finished result => exact .moved ⟨rfl, rfl⟩ rfl (.still _)

theorem finishStatement_steps (registrar : Registrar) (draw : Draw) (activation : Activation) :
    registrar.Steps activation (registrar.finishStatement draw activation).1
      (registrar.finishStatement draw activation).2 := by
  cases activation with
  | inserting participant =>
    rcases registrar.store.persist_cases draw.nonce.bytes participant with
      ⟨id, stored, writes⟩ | ⟨error, refused⟩
    · simp only [finishStatement, stored]
      exact .wrote ⟨rfl, writes.cipher⟩ writes
    · simp only [finishStatement, refused]
      exact .moved ⟨rfl, rfl⟩ rfl (.still _)
  | lookingUpAddress | lookingUpSponsor | inserted | finished =>
    exact .moved ⟨rfl, rfl⟩ rfl (.still _)

theorem eq_unauthorized_of_authorize {registrar : Registrar} {now : Instant}
    {token fingerprint : String} {error : RegistrationError}
    (refused : registrar.authorize now token fingerprint = .error error) :
    error = .unauthorized := by
  unfold authorize at refused
  split at refused
  · split at refused <;> cases refused
    rfl
  · cases refused
    rfl

theorem beginActivation_cases (registrar : Registrar) (now : Instant)
    (token fingerprint : String) :
    (∃ claims, registrar.authorize now token fingerprint = .ok claims ∧
        registrar.beginActivation now token fingerprint = (.lookingUpAddress claims, registrar)) ∨
      ∃ error, registrar.beginActivation now token fingerprint =
        registrar.conclude (.error error) := by
  cases authorized : registrar.authorize now token fingerprint with
  | ok claims => exact .inl ⟨claims, rfl, by simp [beginActivation, authorized]⟩
  | error error => exact .inr ⟨error, by simp [beginActivation, authorized]⟩

def Activation.remaining : Activation → Nat
  | lookingUpAddress _ => 4
  | lookingUpSponsor _ => 3
  | inserting _ => 2
  | inserted _ => 1
  | finished _ => 0

theorem remaining_advance (registrar : Registrar) (draw : Draw) (activation : Activation) :
    (registrar.advance draw activation).1.remaining ≤ activation.remaining - 1 := by
  cases activation with
  | lookingUpAddress claims =>
    simp only [advance]
    split <;> simp [conclude, Activation.remaining]
  | lookingUpSponsor claims =>
    simp only [advance]
    split <;> simp [conclude, Activation.remaining]
  | inserting participant =>
    simp only [advance]
    split <;> simp [conclude, Activation.remaining]
  | inserted participant => exact Nat.le_refl 0
  | finished result => exact Nat.le_refl 0

theorem run_finished (draw : Draw) (steps : Nat) (state : Activation × Registrar)
    (enough : state.1.remaining ≤ steps) :
    ∃ result, (run draw steps state).1 = .finished result := by
  induction steps generalizing state with
  | zero =>
    rcases state with ⟨activation, registrar⟩
    cases activation with
    | finished result => exact ⟨result, rfl⟩
    | lookingUpAddress | lookingUpSponsor | inserting | inserted =>
      simp [Activation.remaining] at enough
  | succ steps ih =>
    have fewer := remaining_advance state.2 draw state.1
    exact ih (state.2.advance draw state.1) (by omega)

theorem run_beginActivation (registrar : Registrar) (draw : Draw) (token fingerprint : String) :
    run draw 4 (registrar.beginActivation draw.now token fingerprint) =
      (.finished (registrar.activate draw token fingerprint).1,
        (registrar.activate draw token fingerprint).2) := by
  have enough : (registrar.beginActivation draw.now token fingerprint).1.remaining ≤ 4 := by
    rcases registrar.beginActivation_cases draw.now token fingerprint with
      ⟨claims, -, begun⟩ | ⟨error, begun⟩ <;>
        simp [begun, conclude, Activation.remaining]
  obtain ⟨result, finished⟩ := run_finished draw 4 _ enough
  unfold activate
  generalize run draw 4 (registrar.beginActivation draw.now token fingerprint) = final
    at finished ⊢
  rcases final with ⟨activation, registrar⟩
  cases finished
  rfl

end Registrar

end Enrolment
