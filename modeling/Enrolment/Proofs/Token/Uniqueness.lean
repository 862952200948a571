import Enrolment.Proofs.Token.SharedSecrets
import Enrolment.Proofs.Token.Verdict

set_option autoImplicit false

namespace Enrolment

namespace TokenService

open Token

variable {service : TokenService} {function : HashFunction} {secret : Bytes}

def signedSegments (token : String) : List (List Char) := (splitAt '.' token.toList).take 2

theorem signedSegments_of_parts {token : String} {headerText payloadText signatureText : List Char}
    (parts : splitAt '.' token.toList = [headerText, payloadText, signatureText]) :
    signedSegments token = [headerText, payloadText] := by
  rw [signedSegments, parts]
  rfl

section Shared

variable (keyed : service.key = .shared function secret)
include keyed

theorem Bears.signatureText_eq {token : String} {payload : Payload}
    {headerText payloadText signatureText : List Char}
    (bears : service.Bears token payload headerText payloadText signatureText) :
    signatureText = Base64.encodeChars Base64.urlSafe (Hmac.tag function secret
      (Bytes.ofString (String.ofList (headerText ++ '.' :: payloadText)))) := by
  obtain ⟨signature, signatureRead, verified⟩ := bears.signature
  rw [keyed, SigningKey.verify, decide_eq_true_iff] at verified
  rw [verified]
  exact segmentBytes?_eq_some_iff.mp signatureRead

theorem eq_of_signedSegments {left right : String} {leftNow rightNow : Instant}
    {leftClaims rightClaims : Claims} (leftTaken : service.extract left leftNow = .ok leftClaims)
    (rightTaken : service.extract right rightNow = .ok rightClaims)
    (same : signedSegments left = signedSegments right) : left = right := by
  obtain ⟨leftPayload, leftAuthentic, -⟩ := extract_ok leftTaken
  obtain ⟨rightPayload, rightAuthentic, -⟩ := extract_ok rightTaken
  obtain ⟨headerText, payloadText, leftSignature, leftBears⟩ := bears_of_authenticate leftAuthentic
  obtain ⟨_, _, rightSignature, rightBears⟩ := bears_of_authenticate rightAuthentic
  rw [signedSegments_of_parts leftBears.parts, signedSegments_of_parts rightBears.parts] at same
  cases same
  -- Both signatures are the code of the one message, in its one spelling.
  have signatures : leftSignature = rightSignature :=
    (leftBears.signatureText_eq keyed).trans (rightBears.signatureText_eq keyed).symm
  obtain ⟨-, -, -, leftWhole⟩ := splitAt_eq_triple_iff.mp leftBears.parts
  obtain ⟨-, -, -, rightWhole⟩ := splitAt_eq_triple_iff.mp rightBears.parts
  apply String.toList_injective
  rw [leftWhole, rightWhole, signatures]

theorem altered_refused {token : String} {now : Instant} {claims : Claims}
    {headerText payloadText signatureText altered : List Char}
    (taken : service.extract token now = .ok claims)
    (parts : splitAt '.' token.toList = [headerText, payloadText, signatureText])
    (differs : altered ≠ signatureText) (later : Instant) :
    ∃ rejection, service.extract
        (String.ofList ((headerText ++ '.' :: payloadText) ++ '.' :: altered)) later =
      .error rejection := by
  cases extracted : service.extract
      (String.ofList ((headerText ++ '.' :: payloadText) ++ '.' :: altered)) later with
  | error rejection => exact ⟨rejection, rfl⟩
  | ok others =>
    obtain ⟨headerApart, payloadApart, -, whole⟩ := splitAt_eq_triple_iff.mp parts
    have segments : signedSegments
        (String.ofList ((headerText ++ '.' :: payloadText) ++ '.' :: altered)) =
          signedSegments token := by
      rw [signedSegments_of_parts parts, signedSegments, String.toList_ofList, List.append_assoc,
        List.cons_append, splitAt_append _ _ _ headerApart, splitAt_append _ _ _ payloadApart]
      rfl
    have same := eq_of_signedSegments keyed extracted taken segments
    rw [← String.toList_inj, String.toList_ofList, whole] at same
    exact absurd (by simpa using same) differs

end Shared

theorem one_text_for_each_signed (keyed : service.key = .shared function secret) :
    (∀ left right leftNow rightNow leftClaims rightClaims,
      service.extract left leftNow = .ok leftClaims →
        service.extract right rightNow = .ok rightClaims →
          signedSegments left = signedSegments right → left = right) ∧
      (∀ token now claims headerText payloadText signatureText altered later,
        service.extract token now = .ok claims →
          splitAt '.' token.toList = [headerText, payloadText, signatureText] →
            altered ≠ signatureText →
              ∃ rejection, service.extract
                  (String.ofList ((headerText ++ '.' :: payloadText) ++ '.' :: altered)) later =
                .error rejection ∧ rejection.message = "invalid token") ∧
      ∀ (first second : Registrar), first.tokens = service → second.tokens = service →
        ∀ left right leftNow rightNow leftClaims rightClaims leftFingerprint rightFingerprint,
          first.authorize leftNow left leftFingerprint = .ok leftClaims →
            second.authorize rightNow right rightFingerprint = .ok rightClaims →
              signedSegments left = signedSegments right →
                leftFingerprint = rightFingerprint := by
  refine ⟨?unique, ?altered, ?fingerprint⟩
  case unique =>
    intro left right leftNow rightNow leftClaims rightClaims leftTaken rightTaken same
    exact eq_of_signedSegments keyed leftTaken rightTaken same
  case altered =>
    intro token now claims headerText payloadText signatureText altered later taken parts differs
    obtain ⟨rejection, refused⟩ := altered_refused keyed taken parts differs later
    exact ⟨rejection, refused, rfl⟩
  case fingerprint =>
    rintro first second rfl secondTokens left right leftNow rightNow leftClaims rightClaims
      leftFingerprint rightFingerprint leftAuthorized rightAuthorized same
    obtain ⟨leftPresentable, leftTaken⟩ := first.authorize_eq_ok_iff.mp leftAuthorized
    obtain ⟨rightPresentable, rightTaken⟩ := second.authorize_eq_ok_iff.mp rightAuthorized
    rw [secondTokens] at rightTaken
    obtain rfl := eq_of_signedSegments keyed leftTaken rightTaken same
    -- A token that is presentable comes with its own digest.
    simp only [Registrar.isPresentable, Bool.and_eq_true, beq_iff_eq] at leftPresentable
    simp only [Registrar.isPresentable, Bool.and_eq_true, beq_iff_eq] at rightPresentable
    rw [← leftPresentable.2, ← rightPresentable.2]

theorem one_text_for_each_signed_padded :
    plain.extract plainToken ⟨0, 0, by decide⟩ = .ok quotedClaims ∧
      ∃ rejection, plain.extract (plainToken ++ "=") ⟨0, 0, by decide⟩ = .error rejection ∧
        rejection.message = "invalid token" := by
  have live := plain.extract_create [] quotedClaims ⟨0, 0, by decide⟩ ⟨0, 0, by decide⟩
    (by decide) (by decide) (by rintro scheme pair ⟨⟩)
  have taken := live.1 (by unfold IsLive; decide)
  obtain ⟨-, altered, -⟩ := one_text_for_each_signed (rfl : plain.key = .shared .sha256 [97])
  obtain ⟨headerText, payloadText, signatureText, parts⟩ : ∃ headerText payloadText signatureText,
      splitAt '.' plainToken.toList = [headerText, payloadText, signatureText] :=
    ⟨_, _, _, plain.splitAt_create [] quotedClaims ⟨0, 0, by decide⟩⟩
  obtain ⟨-, -, -, whole⟩ := splitAt_eq_triple_iff.mp parts
  have padded : plainToken ++ "=" =
      String.ofList ((headerText ++ '.' :: payloadText) ++ '.' :: (signatureText ++ ['='])) := by
    apply String.toList_injective
    simp [whole]
  refine ⟨taken, ?_⟩
  rw [padded]
  exact altered plainToken ⟨0, 0, by decide⟩ quotedClaims _ _ signatureText _ ⟨0, 0, by decide⟩
    taken parts (by simp)

end TokenService

end Enrolment
