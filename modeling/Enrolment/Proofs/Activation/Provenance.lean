import Enrolment.Proofs.Activation.Accounts
import Enrolment.Proofs.Store.Roster
import Enrolment.Proofs.Token.Verdict

set_option autoImplicit false

namespace Enrolment

def Row.Carries (row : Row) (cipher : EmailCipher) (claims : Claims) : Prop :=
  row.address = claims.address ∧ row.sponsor = claims.sponsor ∧
    cipher.opened row.address row.sealedEmail = .ok claims.email ∧
      ∃ nonce : Nonce, row.sealedEmail = cipher.sealed nonce.bytes claims.address claims.email

theorem Row.carries_ofParticipant (cipher : EmailCipher) (nonce : Nonce) (id : Nat)
    (participant : Participant) :
    (Row.ofParticipant cipher nonce.bytes id participant).Carries cipher
      ⟨participant.address, participant.email, participant.sponsor⟩ :=
  ⟨rfl, rfl, cipher.opened_sealed (Nat.le_of_eq nonce.size.symm) _ _, nonce, rfl⟩

namespace Office

variable (office : Office)

def signed? : Event → Option (SigningKey × Bytes)
  | .register desk draw claims =>
    if claims.violations = [] then
      some ((office.desk desk).tokens.key, (office.desk desk).tokens.message claims draw.now)
    else none
  | _ => none

-- Under no key does a presented token vouch for a message that was not signed with it before.
def IsUnforged (events : List Event) : Prop :=
  ∀ earlier desk now token fingerprint later message,
    events = earlier ++ .present desk now token fingerprint :: later →
      (office.desk desk).tokens.attested? token = some message →
        ((office.desk desk).tokens.key, message) ∈ earlier.filterMap office.signed?

def IsDated (events : List Event) : Prop :=
  ∀ desk draw claims, .register desk draw claims ∈ events →
    -(2 ^ 63) ≤ draw.now.seconds ∧ draw.now.seconds < 2 ^ 63

theorem IsUnforged.initial {office : Office} {events more : List Event}
    (unforged : office.IsUnforged (events ++ more)) : office.IsUnforged events := by
  intro earlier desk now token fingerprint later message parts attested
  exact unforged earlier desk now token fingerprint (later ++ more) message (by simp [parts])
    attested

theorem IsDated.initial {events more : List Event} (dated : IsDated (events ++ more)) :
    IsDated events :=
  fun desk draw claims member => dated desk draw claims (List.mem_append_left _ member)

-- The registration of claims, and the presentation after it that opened a call for them.
def Originates (events : List Event) (number : Nat) (claims : Claims) : Prop :=
  ∃ before signer draw between desk now token fingerprint after,
    events = before ++ .register signer draw claims ::
        (between ++ .present desk now token fingerprint :: after) ∧
      claims.violations = [] ∧
      (office.run (before ++ .register signer draw claims :: between)).calls.length = number ∧
      (office.desk signer).tokens.key = (office.desk desk).tokens.key ∧
      (office.desk desk).tokens.Echoes (office.desk signer).tokens claims draw.now.seconds
        now.seconds claims

theorem Originates.later {office : Office} {events : List Event} {number : Nat} {claims : Claims}
    (originates : office.Originates events number claims) (more : List Event) :
    office.Originates (events ++ more) number claims := by
  obtain ⟨before, signer, draw, between, desk, now, token, fingerprint, after, rfl, origin⟩ :=
    originates
  exact ⟨before, signer, draw, between, desk, now, token, fingerprint, after ++ more, by simp,
    origin⟩

theorem originates_of_authorize {events : List Event} {desk : Nat} {now : Instant}
    {token fingerprint : String} {claims : Claims}
    (dated : IsDated events)
    (unforged : office.IsUnforged (events ++ [.present desk now token fingerprint]))
    (authorized : ((office.run events).desk desk).authorize now token fingerprint = .ok claims) :
    office.Originates (events ++ [.present desk now token fingerprint])
      (office.run events).calls.length claims := by
  have extracted := (Registrar.authorize_eq_ok_iff _).mp authorized |>.2
  rw [(office.keeps_run events).tokens desk] at extracted
  obtain ⟨message, attested⟩ := TokenService.attested?_of_extract extracted
  -- Whatever the text is, its message was signed, and only registrations have things signed.
  have logged := unforged events desk now token fingerprint [] message rfl attested
  obtain ⟨event, member, signs⟩ := List.mem_filterMap.mp logged
  cases event with
  | register signer draw registered =>
    simp only [signed?, Option.ite_none_right_eq_some, Option.some.injEq, Prod.mk.injEq] at signs
    obtain ⟨valid, key, rfl⟩ := signs
    have ⟨lower, upper⟩ := dated signer draw registered member
    have echoes := TokenService.echoes_of_extract lower upper attested extracted
    have same := echoes.claims
    subst same
    obtain ⟨before, between, rfl⟩ := List.append_of_mem member
    exact ⟨before, signer, draw, between, desk, now, token, fingerprint, [], by simp, valid, rfl,
      key, echoes⟩
  | present | advance | lose | abandon | disturb => cases signs

structure Traced (events : List Event) : Prop where
  calls : ∀ (number : Nat) (call : Call) (claims : Claims),
    (office.run events).calls[number]? = some call → call.activation.claims? = some claims →
      office.Originates events number claims
  rows : ∀ entry ∈ office.journal events, ∃ claims,
    entry.2.Carries office.store.cipher claims ∧ office.Originates events entry.1 claims

variable {office : Office}

theorem Traced.concat {events : List Event} {event : Event} (traced : office.Traced events)
    (dated : IsDated events) (unforged : office.IsUnforged (events ++ [event])) :
    office.Traced (events ++ [event]) := by
  have kept : ∀ entry ∈ office.journal events, ∃ claims,
      entry.2.Carries office.store.cipher claims ∧
        office.Originates (events ++ [event]) entry.1 claims := by
    intro entry member
    obtain ⟨claims, carries, originates⟩ := traced.rows entry member
    exact ⟨claims, carries, originates.later _⟩
  -- Claims enter with a presented token, and are carried along until the row is written.
  cases (office.run events).step_steps event with
  | quiet keeps rows grows calls =>
    constructor
    case calls =>
      intro number call claims present carried
      rw [run_concat] at present
      rcases calls number call present with ⟨former, earlier, moves⟩ | ⟨rfl, opens⟩
      · exact (traced.calls number former claims earlier (moves.claims? carried)).later _
      · rcases opens.activation with
          ⟨desk, now, token, fingerprint, found, rfl, authorized, looking⟩ | ⟨error, failed⟩
        · rw [looking] at carried
          cases carried
          exact office.originates_of_authorize dated unforged authorized
        · rw [failed] at carried
          cases carried
    case rows =>
      rw [journal_concat, written_quiet rows, List.append_nil]
      exact kept
  | @wrote keeps number id draw call caller participant nonce advances present inserting writes
      calls =>
    have origin := traced.calls number call
      ⟨participant.address, participant.email, participant.sponsor⟩ present
      (by rw [inserting]; rfl)
    constructor
    case calls =>
      intro other found claims later carried
      rw [run_concat, calls] at later
      rcases getElem?_set_cases later with ⟨rfl, rfl⟩ | ⟨different, unchanged⟩
      · cases carried
        exact origin.later _
      · exact (traced.calls other found claims unchanged carried).later _
    case rows =>
      subst advances
      rw [journal_concat, written_advance writes.rows]
      intro entry member
      rcases List.mem_append.mp member with earlier | last
      · exact kept entry earlier
      · rw [List.mem_singleton.mp last]
        rw [(office.keeps_run events).cipher]
        exact ⟨_, Row.carries_ofParticipant _ nonce id participant, origin.later _⟩

theorem traced_run (store : Store) (desks : Nat → Registrar) (events : List Event)
    (dated : IsDated events) (unforged : (opened store desks).IsUnforged events) :
    (opened store desks).Traced events := by
  induction events using List.reverseRecOn with
  | nil => exact ⟨by simp [run, opened], by simp [journal]⟩
  | append_singleton events event ih =>
    exact (ih dated.initial unforged.initial).concat dated.initial unforged

theorem rows_are_registered (store : Store) (desks : Nat → Registrar) (events : List Event)
    (dated : IsDated events) (unforged : (opened store desks).IsUnforged events) :
    let office := opened store desks
    (office.run events).store.rows = store.rows ++ (office.journal events).map Prod.snd ∧
      ∀ number row, (number, row) ∈ office.journal events →
        ∃ claims before signer draw between desk now token fingerprint after,
          row.Carries store.cipher claims ∧
          events = before ++ .register signer draw claims ::
            (between ++ .present desk now token fingerprint :: after) ∧
          claims.violations = [] ∧
          (office.run (before ++ .register signer draw claims :: between)).calls.length = number ∧
          (desks signer).tokens.key = (desks desk).tokens.key ∧
          (desks signer).tokens.algorithm = (desks desk).tokens.algorithm ∧
          (desks signer).tokens.issuer = (desks desk).tokens.issuer ∧
          draw.now.seconds ≤ now.seconds ∧
          (draw.now.seconds + ((desks signer).tokens.window : Int) < 2 ^ 63 →
            (desks signer).tokens.IsLive draw.now now) := by
  intro office
  refine ⟨(accounted_run store desks events).rows, fun number row member => ?_⟩
  have traced := traced_run store desks events dated unforged
  obtain ⟨claims, carries, before, signer, draw, between, desk, now, token, fingerprint, after,
    parts, valid, opened, key, echoes⟩ := traced.rows (number, row) member
  have lower := (dated signer draw claims (by simp [parts])).1
  refine ⟨claims, before, signer, draw, between, desk, now, token, fingerprint, after, carries,
    parts, valid, opened, key, echoes.algorithm, echoes.issuer, echoes.started, fun fits => ?_⟩
  have unexpired : now.seconds < (desks signer).tokens.expiry draw.now.seconds := echoes.unexpired
  rw [TokenService.expiry_of_fits _ _ lower fits] at unexpired
  exact ⟨echoes.started, unexpired⟩

theorem isDated_enrolment : IsDated enrolment := by
  intro desk draw claims member
  rw [draw_of_mem_enrolment member]
  decide

theorem isUnforged_enrolment : frontOffice.IsUnforged enrolment := by
  intro earlier desk now token fingerprint later message parts attested
  have valid : newcomer.violations = [] := by decide +kernel
  have signs : frontOffice.signed? (.register 0 ⟨enrolledAt, []⟩ newcomer) =
      some (frontDesk.tokens.key, frontDesk.tokens.message newcomer enrolledAt) := by
    rw [signed?, if_pos valid]
    rfl
  -- Nothing but the second event presents a token.
  rcases earlier with _ | ⟨first, _ | ⟨second, rest⟩⟩
  · cases parts
  · simp only [enrolment, List.cons_append, List.nil_append, List.cons.injEq, Event.present.injEq]
      at parts
    obtain ⟨rfl, ⟨rfl, rfl, rfl, rfl⟩, -⟩ := parts
    have own := frontDesk.tokens.attested?_create [] newcomer enrolledAt (by rintro scheme pair ⟨⟩)
    have same : message = frontDesk.tokens.message newcomer enrolledAt :=
      Option.some.inj (attested.symm.trans own)
    rw [same, List.filterMap_cons, signs]
    exact List.mem_cons_self
  · simp only [enrolment, List.cons_append, List.cons.injEq] at parts
    have advances := parts.2.2
    have member : Event.present desk now token fingerprint ∈
        List.replicate 4 (Event.advance 0 ⟨activatedAt, []⟩) := by
      rw [advances]
      exact List.mem_append_right _ List.mem_cons_self
    simp at member

theorem rows_are_registered_newcomer :
    ∃ row, (0, row) ∈ frontOffice.journal enrolment ∧
      ∃ claims signer draw now, .register signer draw claims ∈ enrolment ∧
        claims.violations = [] ∧ row.Carries foundation.cipher claims ∧
        frontDesk.tokens.IsLive draw.now now := by
  obtain ⟨nonce, id, written⟩ :=
    (accounted_run foundation (fun _ => frontDesk) enrolment).row_of_result result?_enrolment
  obtain ⟨-, registered⟩ := rows_are_registered foundation (fun _ => frontDesk) enrolment
    isDated_enrolment isUnforged_enrolment
  obtain ⟨claims, before, signer, draw, between, desk, now, token, fingerprint, after, carries,
    parts, valid, -, -, -, -, -, live⟩ := registered _ _ written
  have member : Event.register signer draw claims ∈ enrolment := by simp [parts]
  have dated : draw.now = enrolledAt := by rw [draw_of_mem_enrolment member]
  exact ⟨_, written, claims, signer, draw, now, member, valid, carries,
    live (by rw [dated]; decide)⟩

end Office

end Enrolment
