import Enrolment.Proofs.Token.Attested
import Enrolment.Registrar

set_option autoImplicit false

namespace Enrolment

-- The text before a byte position, where `none` is a position outside it or inside a character.
def textBefore? (text : String) (position : String.Pos.Raw) : Option String :=
  if valid : position.IsValid text then some (text.extract text.startPos (text.pos position valid))
  else none

theorem textBefore?_append (front rest : String) :
    textBefore? (front ++ rest) front.rawEndPos = some front := by
  have valid : front.rawEndPos.IsValid (front ++ rest) :=
    String.Pos.Raw.isValid_iff_exists_append.mpr ⟨front, rest, rfl, rfl⟩
  rw [textBefore?, dif_pos valid, Option.some_inj]
  apply String.toByteArray_inj.mp
  rw [String.toByteArray_extract, String.toByteArray_append]
  exact ByteArray.extract_append_eq_left String.size_toByteArray.symm

namespace Token

-- The token without its last segment and the point before it, cut by the number of bytes.
def signedText? (token : String) (signatureText : List Char) : Option String :=
  let dropped := (String.ofList signatureText).utf8ByteSize + 1
  if dropped ≤ token.utf8ByteSize then textBefore? token ⟨token.utf8ByteSize - dropped⟩ else none

theorem signedText?_eq {token : String} {headerText payloadText signatureText : List Char}
    (parts : splitAt '.' token.toList = [headerText, payloadText, signatureText]) :
    signedText? token signatureText = some (String.ofList (headerText ++ '.' :: payloadText)) := by
  obtain ⟨-, -, -, whole⟩ := splitAt_eq_triple_iff.mp parts
  obtain rfl : token = String.ofList (headerText ++ '.' :: payloadText) ++
      ("." ++ String.ofList signatureText) := by
    apply String.toList_injective
    simpa using whole
  rw [signedText?]
  generalize String.ofList (headerText ++ '.' :: payloadText) = front
  generalize String.ofList signatureText = signature
  have size : (front ++ ("." ++ signature)).utf8ByteSize =
      front.utf8ByteSize + (signature.utf8ByteSize + 1) := by
    rw [String.utf8ByteSize_append, String.utf8ByteSize_append, Nat.add_comm signature.utf8ByteSize]
    rfl
  rw [size, if_pos (Nat.le_add_left _ _), Nat.add_sub_cancel]
  exact textBefore?_append front _

theorem readSegment?_nil {δ : Type} (fields : List (Json.Field δ)) (draft : δ) :
    readSegment? (Json.record fields draft) [] = none := by
  have bytes : segmentBytes? [] = some [] := segmentBytes?_eq_some_iff.mpr rfl
  rw [readSegment?, bytes]
  rfl

theorem readSegment?_shape {δ : Type} {fields : List (Json.Field δ)} {draft value : δ}
    {segment : List Char} (read : readSegment? (Json.record fields draft) segment = some value) :
    segment ≠ [] ∧ ∀ char ∈ segment, isSegmentChar char = true := by
  constructor
  · rintro rfl
    rw [readSegment?_nil] at read
    cases read
  · obtain ⟨bytes, decoded, -⟩ := Option.bind_eq_some_iff.mp read
    rw [segmentBytes?_eq_some_iff.mp decoded]
    exact isSegmentChar_encodeChars bytes

end Token

namespace TokenService

open Token

variable {service : TokenService}

theorem Bears.isWellFormed {token : String} {payload : Payload}
    {headerText payloadText signatureText : List Char}
    (bears : service.Bears token payload headerText payloadText signatureText) :
    isWellFormed token = true := by
  obtain ⟨header, headerRead, -⟩ := bears.header
  obtain ⟨signature, signatureRead, -⟩ := bears.signature
  obtain ⟨headerFilled, headerChars⟩ := readSegment?_shape headerRead
  obtain ⟨payloadFilled, payloadChars⟩ := readSegment?_shape bears.payload
  have signatureChars : ∀ char ∈ signatureText, isSegmentChar char = true := by
    rw [segmentBytes?_eq_some_iff.mp signatureRead]
    exact isSegmentChar_encodeChars signature
  simp only [Token.isWellFormed, bears.parts, Bool.and_eq_true, Bool.not_eq_true',
    List.isEmpty_eq_false_iff, List.all_eq_true]
  exact ⟨⟨⟨⟨headerFilled, payloadFilled⟩, headerChars⟩, payloadChars⟩, signatureChars⟩

theorem isWellFormed_of_extract {token : String} {now : Instant} {claims : Claims}
    (extracted : service.extract token now = .ok claims) : isWellFormed token = true := by
  obtain ⟨payload, authentic, -⟩ := extract_ok extracted
  obtain ⟨headerText, payloadText, signatureText, bears⟩ := bears_of_authenticate authentic
  exact bears.isWellFormed

def StandsFor (service : TokenService) (token : String) (claims : Claims) (start stop : Int) :
    Prop :=
  ∀ now : Instant,
    if start ≤ now.seconds ∧ now.seconds < stop then service.extract token now = .ok claims
    else ∃ rejection, service.extract token now = .error rejection ∧
      rejection.message = "invalid token"

theorem standsFor_of_refused {token : String}
    (refused : ∀ now, ∃ rejection, service.extract token now = .error rejection) :
    service.StandsFor token {} 0 0 := by
  intro now
  obtain ⟨rejection, refusal⟩ := refused now
  rw [if_neg (by omega)]
  exact ⟨rejection, refusal, rfl⟩

theorem exists_standsFor (service : TokenService) (token : String) :
    ∃ claims start stop, service.StandsFor token claims start stop := by
  cases authentic : service.authenticate token with
  | error rejection =>
    refine ⟨{}, 0, 0, standsFor_of_refused fun now => ⟨rejection, ?_⟩⟩
    rw [extract, authentic]
    rfl
  | ok payload =>
    have judged (now : Instant) :
        service.extract token now = service.judge payload now.seconds := by
      rw [extract, authentic]
      rfl
    by_cases foreign : payload.issuer ≠ service.issuer
    · refine ⟨{}, 0, 0, standsFor_of_refused fun now => ⟨.foreignIssuer, ?_⟩⟩
      rw [judged, judge_eq, if_pos foreign]
    by_cases complete : payload.claims.isComplete = true
    · -- The clock is compared with both starts and the end, and nothing else is left to fail.
      refine ⟨payload.claims, max payload.notBefore payload.issuedAt, payload.expiry, ?_⟩
      intro now
      rw [judged, judge_eq, if_neg foreign]
      by_cases early : now.seconds < payload.notBefore ∨ now.seconds < payload.issuedAt
      · rw [if_neg (by omega), if_pos early]
        exact ⟨.notYetValid, rfl, rfl⟩
      by_cases late : payload.expiry ≤ now.seconds
      · rw [if_neg (by omega), if_neg early, if_pos late]
        exact ⟨.expired, rfl, rfl⟩
      · rw [if_pos (by omega), if_neg early, if_neg late, if_pos complete]
    · refine ⟨{}, 0, 0, standsFor_of_refused fun now => ?_⟩
      rw [judged, judge_eq, if_neg foreign, if_neg complete]
      split_ifs
      · exact ⟨.notYetValid, rfl⟩
      · exact ⟨.expired, rfl⟩
      · exact ⟨.incompleteClaims, rfl⟩

def authenticateChecked (service : TokenService) (token : String) :
    Option (Except Rejection Payload) :=
  match splitAt '.' token.toList with
  | [headerText, payloadText, signatureText] =>
    match readSegment? Header.reader headerText with
    | none => some (.error .malformedHeader)
    | some header =>
      if header.algorithm ≠ service.algorithm.name then some (.error .foreignAlgorithm)
      else do
        let input ← signedText? token signatureText
        match segmentBytes? signatureText with
        | none => return .error .malformedSignature
        | some signature =>
          if !service.key.verify (Bytes.ofString input) signature then
            return .error .badSignature
          match readSegment? Payload.reader payloadText with
          | none => return .error .malformedPayload
          | some payload => return .ok payload
  | _ => some (.error .notThreeSegments)

theorem authenticateChecked_eq (service : TokenService) (token : String) :
    service.authenticateChecked token = some (service.authenticate token) := by
  unfold authenticateChecked
  split
  next headerText payloadText signatureText parts =>
    rw [authenticate_eq parts, signedText?_eq parts]
    cases readSegment? Header.reader headerText with
    | none => rfl
    | some header =>
      by_cases foreign : header.algorithm ≠ service.algorithm.name
      · simp only [if_pos foreign]
      simp only [if_neg foreign, Option.bind_eq_bind, Option.bind_some]
      cases segmentBytes? signatureText with
      | none => rfl
      | some signature =>
        dsimp only
        split
        · rfl
        cases readSegment? Payload.reader payloadText <;> rfl
  next others =>
    unfold authenticate
    split
    next parts => exact absurd parts (others _ _ _)
    next => rfl

end TokenService

namespace Registrar

variable (registrar : Registrar) (gate : String → Bool)

def authorizeBehind (now : Instant) (token fingerprint : String) :
    Except RegistrationError Claims :=
  if gate token && Token.fingerprint token == fingerprint then
    match registrar.tokens.extract token now with
    | .ok claims => .ok claims
    | .error _ => .error .unauthorized
  else .error .unauthorized

def beginActivationBehind (now : Instant) (token fingerprint : String) : Activation × Registrar :=
  match registrar.authorizeBehind gate now token fingerprint with
  | .ok claims => (.lookingUpAddress claims, registrar)
  | .error error => registrar.conclude (.error error)

def activateBehind (draw : Draw) (token fingerprint : String) :
    Except RegistrationError Participant × Registrar :=
  match run draw 4 (registrar.beginActivationBehind gate draw.now token fingerprint) with
  | (.finished result, registrar) => (result, registrar)
  | (_, registrar) => (.error .unauthorized, registrar)

theorem authorizeBehind_isWellFormed (now : Instant) (token fingerprint : String) :
    registrar.authorizeBehind Token.isWellFormed now token fingerprint =
      registrar.authorize now token fingerprint :=
  rfl

theorem authorize_eq_ok_iff {now : Instant} {token fingerprint : String} {claims : Claims} :
    registrar.authorize now token fingerprint = .ok claims ↔
      isPresentable token fingerprint = true ∧ registrar.tokens.extract token now = .ok claims := by
  unfold authorize
  split
  next presentable => cases registrar.tokens.extract token now <;> simp [presentable]
  next unpresentable => simp [unpresentable]

theorem activateBehind_of_authorize (draw : Draw) (token fingerprint : String)
    (same : registrar.authorizeBehind gate draw.now token fingerprint =
      registrar.authorize draw.now token fingerprint) :
    registrar.activateBehind gate draw token fingerprint =
      registrar.activate draw token fingerprint := by
  have begun : registrar.beginActivationBehind gate draw.now token fingerprint =
      registrar.beginActivation draw.now token fingerprint := by
    rw [beginActivationBehind, beginActivation]
    exact same ▸ rfl
  rw [activateBehind, activate]
  exact begun ▸ rfl

theorem authorizeBehind_open (now : Instant) (token fingerprint : String) :
    registrar.authorizeBehind (fun _ => true) now token fingerprint =
      registrar.authorize now token fingerprint := by
  by_cases shape : Token.isWellFormed token = true
  · rw [← registrar.authorizeBehind_isWellFormed, authorizeBehind, authorizeBehind, shape]
  · have unauthorized : registrar.authorize now token fingerprint = .error .unauthorized := by
      simp [authorize, isPresentable, shape]
    rw [unauthorized, authorizeBehind]
    -- Whatever is extracted has the shape, so the token is refused later where it was refused here.
    cases extracted : registrar.tokens.extract token now with
    | ok claims => exact absurd (TokenService.isWellFormed_of_extract extracted) shape
    | error rejection => simp

end Registrar

namespace TokenService

open Token

theorem verdict_on_any_text (service : TokenService) (token : String) :
    (∃ claims start stop, service.StandsFor token claims start stop) ∧
      service.authenticateChecked token = some (service.authenticate token) ∧
      (∀ headerText payloadText signatureText,
        splitAt '.' token.toList = [headerText, payloadText, signatureText] →
          ∃ signed, signedText? token signatureText = some signed ∧
            token.toList = signed.toList ++ '.' :: signatureText ∧ '.' ∉ signatureText) ∧
      (∀ now claims, service.extract token now = .ok claims → isWellFormed token = true) ∧
      ∀ (registrar : Registrar) (draw : Draw) (fingerprint : String),
        registrar.activateBehind isWellFormed draw token fingerprint =
            registrar.activate draw token fingerprint ∧
          registrar.activateBehind (fun _ => true) draw token fingerprint =
            registrar.activate draw token fingerprint := by
  refine ⟨service.exists_standsFor token, service.authenticateChecked_eq token, ?cut,
    fun now claims => isWellFormed_of_extract, ?gate⟩
  case cut =>
    intro headerText payloadText signatureText parts
    obtain ⟨-, -, apart, whole⟩ := splitAt_eq_triple_iff.mp parts
    exact ⟨_, signedText?_eq parts, by rw [String.toList_ofList, whole], apart⟩
  case gate =>
    intro registrar draw fingerprint
    exact ⟨registrar.activateBehind_of_authorize _ draw token fingerprint
        (registrar.authorizeBehind_isWellFormed draw.now token fingerprint),
      registrar.activateBehind_of_authorize _ draw token fingerprint
        (registrar.authorizeBehind_open draw.now token fingerprint)⟩

theorem verdict_on_any_text_foreign :
    (∃ signed, signedText? "ä.é.漢" ['漢'] = some signed ∧
        "ä.é.漢".toList = signed.toList ++ '.' :: ['漢']) ∧
      isWellFormed (curveService.create [7] quotedClaims ⟨-1, 5, by decide⟩) = true := by
  obtain ⟨-, -, cut, -⟩ := curveService.verdict_on_any_text "ä.é.漢"
  obtain ⟨signed, taken, whole, -⟩ := cut ['ä'] ['é'] ['漢'] (by decide)
  obtain ⟨-, -, -, shaped, -⟩ := curveService.verdict_on_any_text
    (curveService.create [7] quotedClaims ⟨-1, 5, by decide⟩)
  have live := curveService.extract_create [7] quotedClaims ⟨-1, 5, by decide⟩
    ⟨598, 0, by decide⟩ (by decide) (by decide) curveService_accepts
  exact ⟨⟨signed, taken, whole⟩, shaped _ _ (live.1 (by unfold IsLive; decide))⟩

end TokenService

end Enrolment
