import Enrolment.Proofs.Activation.Completion
import Enrolment.Proofs.Text.Hex

set_option autoImplicit false

namespace Enrolment

namespace Claims

theorem isComplete_of_violations {claims : Claims} (accepted : claims.violations = []) :
    claims.isComplete = true := by
  simp only [violations, List.append_eq_nil_iff, ite_eq_right_iff, List.cons_ne_nil,
    imp_false] at accepted
  obtain ⟨⟨address, valid⟩, sponsor⟩ := accepted
  have email : claims.email ≠ "" := by
    intro empty
    rw [empty] at valid
    exact absurd valid (by decide)
  simp [isComplete, address, email, sponsor]

end Claims

namespace TokenService

theorem slash_not_mem_create (service : TokenService) (entropy : Bytes) (claims : Claims)
    (issued : Instant) : '/' ∉ (service.create entropy claims issued).toList := by
  have outside : Token.isSegmentChar '/' = false := rfl
  simp [create, signingInput, Token.segment, Token.not_mem_encodeChars outside]

end TokenService

namespace Registrar

def lastParts? (link : String) : Option (String × String) :=
  match (splitAt '/' link.toList).reverse with
  | last :: former :: _ => some (String.ofList former, String.ofList last)
  | _ => none

theorem lastParts?_linkTo (base : List Char) (token fingerprint : String)
    (tokenApart : '/' ∉ token.toList) (fingerprintApart : '/' ∉ fingerprint.toList) :
    lastParts? (linkTo base token fingerprint) = some (token, fingerprint) := by
  have link : (linkTo base token fingerprint).toList =
      ((base.reverse.dropWhile (· = '/')).reverse ++ "/activate".toList) ++
        '/' :: (token.toList ++ '/' :: fingerprint.toList) := by
    simp [linkTo]
  rw [lastParts?, link, splitAt_join, splitAt_append _ _ _ tokenApart,
    splitAt_part _ _ fingerprintApart]
  simp

theorem register_accepted (registrar : Registrar) (draw : Draw) {claims : Claims}
    (valid : claims.violations = []) (signs : registrar.tokens.key.canSign draw.entropy = true) :
    let token := registrar.tokens.create draw.entropy claims draw.now
    let fingerprint := Token.fingerprint token
    registrar.register draw claims =
      (.ok ⟨fingerprint, token⟩,
        (registrar.posted (.activationLink claims.email
          (linkTo registrar.base.chars token fingerprint) fingerprint)).counted .registrations) := by
  simp only [register, valid, TokenService.issue, signs, if_true]

theorem valid_of_register {registrar : Registrar} {draw : Draw} {claims : Claims}
    {registration : Registration}
    (accepted : (registrar.register draw claims).1 = .ok registration) :
    claims.violations = [] ∧ registrar.tokens.key.canSign draw.entropy = true := by
  unfold register TokenService.issue at accepted
  split at accepted
  next valid =>
    split at accepted
    next issued =>
      split at issued
      next able => exact ⟨valid, able⟩
      next => cases issued
    next => cases accepted
  next => cases accepted

theorem activate_of_link (registrar : Registrar) (draw : Draw) (claims : Claims)
    (registration : Registration)
    (accepted : (registrar.register draw claims).1 = .ok registration)
    (lower : -(2 ^ 63) ≤ draw.now.seconds)
    (upper : draw.now.seconds + registrar.tokens.window < 2 ^ 63)
    (signs : registrar.tokens.key.Accepts draw.entropy
      (registrar.tokens.message claims draw.now)) :
    ∃ link token,
      (registrar.register draw claims).2.outbox = registrar.outbox.post
          (.activationLink claims.email link registration.fingerprint) ∧
        lastParts? link = some (token, registration.fingerprint) ∧
        ∀ (later : Registrar) (table : Table) (next : Draw), later.tokens = registrar.tokens →
          later.store.Serves table → table.contains claims.sponsor = true →
          table.contains claims.address = false → registrar.tokens.IsLive draw.now next.now →
            ∃ participant,
              (later.activate next token registration.fingerprint).1 = .ok participant ∧
              participant.address = claims.address ∧ participant.email = claims.email ∧
                participant.sponsor = claims.sponsor := by
  have ⟨valid, able⟩ := valid_of_register accepted
  rw [registrar.register_accepted draw valid able] at accepted ⊢
  cases accepted
  refine ⟨_, _, rfl, lastParts?_linkTo _ _ _
    (registrar.tokens.slash_not_mem_create _ _ _) (Hex.not_mem_encodeWith (by decide) _), ?_⟩
  intro later table next tokens serves sponsored free live
  have complete := Claims.isComplete_of_violations valid
  have authorized := later.authorize_create draw.entropy claims draw.now next.now lower
    (by rwa [tokens]) (by rwa [tokens]) complete (by rwa [tokens])
  rw [tokens] at authorized
  exact ⟨_, activate_authorized next authorized serves free sponsored, rfl, rfl, rfl⟩

def curveDesk : Registrar where
  tokens := TokenService.curveService
  base := { scheme := ['a'], authority := none, path := .segments [['b'], [], []] }
  store := Office.foundation

def sponsors : Table where
  rows := [⟨1, "\\", "", Uuid.ofNat 0, Instant.ofMillis 0, ""⟩]
  nextId := 2

def sponsoredDesk : Registrar :=
  { curveDesk with store := { Office.foundation with table := some sponsors } }

theorem activate_of_link_curveDesk :
    ∃ registration link token participant,
      (curveDesk.register ⟨⟨-1, 5, by decide⟩, [7]⟩ TokenService.quotedClaims).1 =
          .ok registration ∧
        (curveDesk.register ⟨⟨-1, 5, by decide⟩, [7]⟩ TokenService.quotedClaims).2.outbox.pending =
          [.activationLink "b@c" link registration.fingerprint] ∧
        lastParts? link = some (token, registration.fingerprint) ∧
        (sponsoredDesk.activate ⟨⟨598, 0, by decide⟩, []⟩ token registration.fingerprint).1 =
          .ok participant ∧ participant.address = "\"ä" ∧ participant.sponsor = "\\" := by
  have valid : TokenService.quotedClaims.violations = [] := by decide +kernel
  have accepted := curveDesk.register_accepted ⟨⟨-1, 5, by decide⟩, [7]⟩ valid rfl
  obtain ⟨link, token, posted, parts, completed⟩ := activate_of_link curveDesk
    ⟨⟨-1, 5, by decide⟩, [7]⟩ TokenService.quotedClaims _ (congrArg Prod.fst accepted)
    (by decide) (by decide) TokenService.curveService_accepts
  obtain ⟨participant, activated, address, -, sponsor⟩ := completed sponsoredDesk sponsors
    ⟨⟨598, 0, by decide⟩, []⟩ rfl ⟨rfl, rfl, rfl, rfl⟩ (by decide) (by decide)
    (by unfold TokenService.IsLive; decide)
  exact ⟨_, link, token, participant, congrArg Prod.fst accepted,
    congrArg Outbox.pending posted, parts, activated, address, sponsor⟩

end Registrar

end Enrolment
