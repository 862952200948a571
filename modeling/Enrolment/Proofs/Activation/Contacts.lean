import Enrolment.Proofs.Activation.Link
import Enrolment.Proofs.Activation.Marks
import Enrolment.Proofs.Activation.Provenance
import Enrolment.Proofs.Email.Mailbox

set_option autoImplicit false

namespace Enrolment

theorem Claims.isContact_of_violations {claims : Claims} (accepted : claims.violations = []) :
    Mailbox.IsContact claims.email := by
  simp only [violations, List.append_eq_nil_iff, ite_eq_left_iff, List.cons_ne_nil, imp_false,
    Decidable.not_not] at accepted
  exact Mailbox.isContact_of_isValid accepted.1.2

namespace Office

variable {store : Store} {desks : Nat → Registrar}

theorem registered_of_confirmed {events : List Event} (dated : IsDated events)
    (unforged : (opened store desks).IsUnforged events) {number : Nat} {contact : String}
    (member : contact ∈ (((opened store desks).run events).desk number).confirmed) :
    contact ∈ ((opened store desks).desk number).confirmed ∨
      ∃ claims : Claims, claims.violations = [] ∧ claims.email = contact := by
  induction events using List.reverseRecOn with
  | nil => exact .inl member
  | append_singleton events event ih =>
    rw [run_concat] at member
    have before := ih dated.initial unforged.initial
    cases ((opened store desks).run events).step_marks event with
    | unmarked same =>
      rw [(same number).confirmed] at member
      exact before member
    | @marked call desk draw participant advances present marked elsewhere =>
      by_cases here : number = desk
      · subst here
        rw [marked.confirmed, List.mem_append, List.mem_singleton] at member
        rcases member with earlier | rfl
        · exact before earlier
        · have traced := traced_run store desks events dated.initial unforged.initial
          obtain ⟨_, _, _, _, _, _, _, _, _, -, valid, -⟩ := traced.calls call _ _ present rfl
          exact .inr ⟨_, valid, rfl⟩
      · rw [(elsewhere number here).confirmed] at member
        exact before member

theorem contacts_are_mailboxes (registrar : Registrar) (draw : Draw) (claims : Claims)
    (store : Store) (desks : Nat → Registrar) (events : List Event) :
    (∀ registration, (registrar.register draw claims).1 = .ok registration →
      (∃ link, (registrar.register draw claims).2.outbox =
        registrar.outbox.post (.activationLink claims.email link registration.fingerprint)) ∧
      Mailbox.IsContact claims.email) ∧
    (IsDated events → (opened store desks).IsUnforged events →
      (∀ number, ∀ contact ∈ (((opened store desks).run events).desk number).confirmed,
        contact ∈ ((opened store desks).desk number).confirmed ∨ Mailbox.IsContact contact) ∧
      ∀ entry ∈ (opened store desks).journal events, ∃ claims,
        entry.2.Carries store.cipher claims ∧ Mailbox.IsContact claims.email) := by
  constructor
  · intro registration accepted
    have ⟨valid, able⟩ := Registrar.valid_of_register accepted
    rw [registrar.register_accepted draw valid able] at accepted ⊢
    cases accepted
    exact ⟨⟨_, rfl⟩, Claims.isContact_of_violations valid⟩
  · intro dated unforged
    constructor
    · intro number contact member
      refine (registered_of_confirmed dated unforged member).imp_right ?_
      rintro ⟨claims, valid, rfl⟩
      exact Claims.isContact_of_violations valid
    · intro entry member
      have traced := traced_run store desks events dated unforged
      obtain ⟨claims, carries, _, _, _, _, _, _, _, _, _, -, valid, -⟩ := traced.rows entry member
      exact ⟨claims, carries, Claims.isContact_of_violations valid⟩

theorem contacts_are_mailboxes_newcomer :
    (∃ registration, (frontDesk.register ⟨enrolledAt, []⟩ newcomer).1 = .ok registration) ∧
      Mailbox.IsContact newcomer.email ∧
      ∃ row, (0, row) ∈ frontOffice.journal enrolment ∧ ∃ claims,
        row.Carries foundation.cipher claims ∧ Mailbox.IsContact claims.email := by
  have valid : newcomer.violations = [] := by decide +kernel
  have accepted := frontDesk.register_accepted ⟨enrolledAt, []⟩ valid rfl
  obtain ⟨accepts, activates⟩ := contacts_are_mailboxes frontDesk ⟨enrolledAt, []⟩ newcomer
    foundation (fun _ => frontDesk) enrolment
  obtain ⟨-, rows⟩ := activates isDated_enrolment isUnforged_enrolment
  obtain ⟨nonce, id, written⟩ :=
    (accounted_run foundation (fun _ => frontDesk) enrolment).row_of_result result?_enrolment
  exact ⟨⟨_, congrArg Prod.fst accepted⟩,
    (accepts _ (congrArg Prod.fst accepted)).2, _, written, rows _ written⟩

def blankClaims : Claims := ⟨"ann", "a@ [1.2.3.4]", "root"⟩

theorem blank_contact_accepted :
    (∃ registration link, frontDesk.register ⟨enrolledAt, []⟩ blankClaims =
      (.ok registration, (frontDesk.posted
        (.activationLink "a@ [1.2.3.4]" link registration.fingerprint)).counted .registrations)) ∧
      ' ' ∈ "a@ [1.2.3.4]".toList ∧ isStray ' ' = true := by
  have valid : blankClaims.violations = [] := by decide +kernel
  exact ⟨⟨_, _, frontDesk.register_accepted ⟨enrolledAt, []⟩ valid rfl⟩, by decide, by decide⟩

end Office

end Enrolment
