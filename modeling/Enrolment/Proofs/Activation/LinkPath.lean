import Enrolment.Proofs.Activation.Link
import Enrolment.Proofs.Url.PathPart

set_option autoImplicit false

namespace Enrolment

namespace Keccak

theorem length_round (state : State) (constant : UInt64) : (round state constant).length = 25 := by
  have mixed : (chi (rhoPi (theta state))).length = 25 := by simp [chi, tabulate]
  unfold round
  split
  next lanes => rwa [lanes] at mixed
  next lanes => rw [lanes] at mixed; cases mixed

theorem length_permute {state : State} (full : state.length = 25) :
    (permute state).length = 25 := by
  unfold permute
  induction constants generalizing state with
  | nil => exact full
  | cons constant rest ih => exact ih (length_round state constant)

theorem length_absorb (rate count : Nat) {state : State} (full : state.length = 25)
    (bytes : Bytes) : (absorb rate count state bytes).length = 25 := by
  induction count generalizing state bytes with
  | zero => exact full
  | succ count ih =>
    exact ih (length_permute (by simp [full, lanes])) _

theorem length_sha3_512 (message : Bytes) : (sha3_512 message).length = 64 := by
  simp [sha3_512, digest, List.length_flatMap, Bytes.length_ofNat, length_absorb]

end Keccak

theorem Token.length_fingerprint (token : String) : (fingerprint token).toList.length = 128 := by
  rw [fingerprint, Hex.encodeUpper, Hex.length_encodeWith, Keccak.length_sha3_512]

theorem Token.fingerprint_ne_empty (token : String) : fingerprint token ≠ "" := by
  intro empty
  have size := length_fingerprint token
  rw [empty] at size
  cases size

theorem Token.isInner_fingerprint (token : String) : Url.IsInner (fingerprint token).toList := by
  intro char member
  obtain ⟨value, small, rfl⟩ := Hex.mem_encodeWith member
  exact Url.isInner_upperDigit value small

theorem TokenService.isInner_create (service : TokenService) (entropy : Bytes) (claims : Claims)
    (issued : Instant) : Url.IsInner (service.create entropy claims issued).toList := by
  have segment (bytes : Bytes) : Url.IsInner (Base64.encodeChars Base64.urlSafe bytes) := by
    intro char member
    refine Url.endsAuthority_eq_false Token.isSegmentChar ?_
    rw [Token.isSegmentChar_encodeChars bytes char member]
    decide
  have point : Url.endsAuthority .other '.' = false := by decide
  simp [create, signingInput, Token.segment, segment, point]

theorem TokenService.create_ne_empty (service : TokenService) (entropy : Bytes) (claims : Claims)
    (issued : Instant) : service.create entropy claims issued ≠ "" := by
  intro empty
  have chars := congrArg String.toList empty
  simp [create] at chars

namespace Registrar

def wayTo (token fingerprint : String) : List Char :=
  '/' :: ("activate".toList ++ '/' :: (token.toList ++ '/' :: fingerprint.toList))

theorem toList_linkTo (base : List Char) (token fingerprint : String) :
    (linkTo base token fingerprint).toList =
      Url.withoutEndSlashes base ++ wayTo token fingerprint := by
  simp [linkTo, wayTo, Url.withoutEndSlashes, List.rdropWhile]

section Way

variable {token fingerprint : String} (tokenInner : Url.IsInner token.toList)
  (fingerprintInner : Url.IsInner fingerprint.toList)
include tokenInner fingerprintInner

theorem isAddition_wayTo : Url.IsAddition (wayTo token fingerprint) where
  slash := rfl
  alone := by simp [wayTo]
  closed := by
    have name : Url.IsInner "activate".toList := by
      simp [Url.endsAuthority, Url.endsPath, Url.isSlash]
    have slash : Url.endsPath '/' = false := by decide
    simp only [wayTo, List.forall_mem_append, List.forall_mem_cons]
    exact ⟨slash, name.endsPath_eq_false, slash, tokenInner.endsPath_eq_false, slash,
      fingerprintInner.endsPath_eq_false⟩

theorem splitAt_wayTo (path : List Char) :
    splitAt '/' (path ++ wayTo token fingerprint) =
      splitAt '/' path ++ ["activate".toList, token.toList, fingerprint.toList] := by
  rw [wayTo, splitAt_join, splitAt_append _ _ _ (by decide),
    splitAt_append _ _ _ tokenInner.slash_not_mem, splitAt_part _ _ fingerprintInner.slash_not_mem]

end Way

theorem isDelimited_of_accepted {base : Url} {tree : SettingTree}
    (accepted : Settings.url tree = .ok base) : base.IsDelimited := by
  obtain ⟨text, -, read⟩ := Settings.exists_of_bind_eq_ok accepted
  exact Url.isDelimited_read (Settings.eq_ok_of_mapError read)

theorem pathPart_of_link (registrar : Registrar) (draw : Draw) (claims : Claims)
    {tree : SettingTree} (accepted : Settings.url tree = .ok registrar.base) :
    let token := registrar.tokens.create draw.entropy claims draw.now
    let fingerprint := Token.fingerprint token
    let link := linkTo registrar.base.chars token fingerprint
    let path := registrar.base.writtenPath
    (claims.violations = [] → registrar.tokens.key.canSign draw.entropy = true →
        (registrar.register draw claims).2.outbox =
          registrar.outbox.post (.activationLink claims.email link fingerprint)) ∧
      Url.pathPart registrar.base.chars = path ∧
      Url.pathPart link.toList =
        (if registrar.base.query.isSome || registrar.base.fragment.isSome then path
          else Url.withoutEndSlashes path ++ wayTo token fingerprint) ∧
      splitAt '/' (Url.withoutEndSlashes path ++ wayTo token fingerprint) =
        splitAt '/' (Url.withoutEndSlashes path) ++
          ["activate".toList, token.toList, fingerprint.toList] ∧
      token ≠ "" ∧ fingerprint ≠ "" := by
  intro token fingerprint link path
  have delimited := isDelimited_of_accepted accepted
  have tokenInner := registrar.tokens.isInner_create draw.entropy claims draw.now
  have fingerprintInner := Token.isInner_fingerprint token
  refine ⟨?posted, delimited.pathPart_chars, ?path, splitAt_wayTo tokenInner fingerprintInner _,
    registrar.tokens.create_ne_empty _ _ _, Token.fingerprint_ne_empty token⟩
  case posted =>
    intro valid able
    rw [registrar.register_accepted draw valid able]
    rfl
  case path =>
    rw [toList_linkTo]
    split
    next filled =>
      exact delimited.pathPart_added_of_tail (by simpa using filled) _
    next plain =>
      simp only [Bool.or_eq_true, not_or, Bool.not_eq_true, Option.isSome_eq_false_iff,
        Option.isNone_iff_eq_none] at plain
      exact delimited.pathPart_added_of_plain plain.1 plain.2
        (isAddition_wayTo tokenInner fingerprintInner)

theorem accepted_of_parse {text : String} {base : Url} (read : Url.parse text = .ok base) :
    Settings.url (.text text) = .ok base := by
  change (Url.parse text).mapError _ = _
  rw [read]
  rfl

def enrolDesk : Registrar where
  tokens := TokenService.curveService
  store := Office.foundation
  base :=
    { scheme := "https".toList
      authority := some { host := some (.domain "waitlist.test".toList) }
      path := .segments ["enrol".toList, [], []] }

theorem pathPart_of_link_enrolDesk :
    let token := enrolDesk.tokens.create [7] TokenService.quotedClaims ⟨-1, 5, by decide⟩
    let fingerprint := Token.fingerprint token
    let link := linkTo enrolDesk.base.chars token fingerprint
    Settings.url (.text "https://waitlist.test/enrol//") = .ok enrolDesk.base ∧
      (enrolDesk.register ⟨⟨-1, 5, by decide⟩, [7]⟩ TokenService.quotedClaims).2.outbox.pending =
        [.activationLink "b@c" link fingerprint] ∧
      splitAt '/' (Url.pathPart link.toList) =
        [[], "enrol".toList, "activate".toList, token.toList, fingerprint.toList] := by
  intro token fingerprint link
  have accepted : Settings.url (.text "https://waitlist.test/enrol//") = .ok enrolDesk.base :=
    accepted_of_parse (by decide +kernel)
  obtain ⟨posted, -, path, parts, -⟩ := pathPart_of_link enrolDesk ⟨⟨-1, 5, by decide⟩, [7]⟩
    TokenService.quotedClaims accepted
  have plain : Url.withoutEndSlashes enrolDesk.base.writtenPath = "/enrol".toList := by decide
  refine ⟨accepted, congrArg Outbox.pending (posted (by decide +kernel) rfl), ?_⟩
  rw [path, if_neg (by decide), parts, plain]
  rfl

def mailDesk : Registrar :=
  { enrolDesk with
    base := { enrolDesk.base with path := .segments [[]], query := some "ref=mail".toList } }

-- The activation ends up in the query.
theorem mailDesk_link_leads_astray :
    let token := mailDesk.tokens.create [7] TokenService.quotedClaims ⟨-1, 5, by decide⟩
    let fingerprint := Token.fingerprint token
    let link := linkTo mailDesk.base.chars token fingerprint
    Settings.url (.text "https://waitlist.test?ref=mail") = .ok mailDesk.base ∧
      link.toList = "https://waitlist.test/?ref=mail".toList ++ wayTo token fingerprint ∧
      Url.pathPart link.toList = ['/'] ∧
      Url.pathPart link.toList ≠
        Url.withoutEndSlashes (Url.pathPart mailDesk.base.chars) ++ wayTo token fingerprint := by
  intro token fingerprint link
  have accepted : Settings.url (.text "https://waitlist.test?ref=mail") = .ok mailDesk.base :=
    accepted_of_parse (by decide +kernel)
  have delimited := isDelimited_of_accepted accepted
  have written : mailDesk.base.writtenPath = ['/'] := by decide
  have path : Url.pathPart link.toList = ['/'] := by
    rw [toList_linkTo, delimited.pathPart_added_of_tail (.inl rfl), written]
  refine ⟨accepted, ?_, path, ?_⟩
  · have start : Url.withoutEndSlashes mailDesk.base.chars =
        "https://waitlist.test/?ref=mail".toList := by decide
    rw [toList_linkTo, start]
  · rw [path, delimited.pathPart_chars, written]
    have bare : Url.withoutEndSlashes ['/'] = [] := by decide
    simp [bare, wayTo]

end Registrar

end Enrolment
