import Enrolment.Proofs.Token.Attested

set_option autoImplicit false

namespace Enrolment.TokenService

open Token

variable (signer verifier : TokenService) (entropy : Bytes) (claims : Claims) (issued now : Instant)

-- Whether the key of one service takes the signature of another for its own.
def Admits : Prop :=
  verifier.key.verify (signer.message claims issued)
    (signer.key.sign entropy (signer.message claims issued)) = true

instance : Decidable (Admits signer verifier entropy claims issued) :=
  inferInstanceAs (Decidable (_ = true))

variable (lower : -(2 ^ 63) ≤ issued.seconds) (upper : issued.seconds < 2 ^ 63)
include lower upper

theorem authenticate_foreign :
    verifier.authenticate (signer.create entropy claims issued) =
      if signer.algorithm ≠ verifier.algorithm then .error .foreignAlgorithm
      else if Admits signer verifier entropy claims issued then .ok (signer.payload claims issued)
      else .error .badSignature := by
  have payload := readSegment?_payload _ (signer.payload_fits claims issued lower upper)
  rw [authenticate_eq (signer.splitAt_create entropy claims issued), readSegment?_header,
    segmentBytes?_encodeChars, payload]
  change (if signer.algorithm.name ≠ verifier.algorithm.name then _
    else if (!verifier.key.verify (signer.message claims issued) _) = true then _ else _) = _
  by_cases same : signer.algorithm = verifier.algorithm
  · rw [if_neg (not_not.mpr (congrArg Algorithm.name same)), if_neg (not_not.mpr same)]
    by_cases admits : Admits signer verifier entropy claims issued
    · have verified := admits
      unfold Admits at verified
      rw [if_pos admits, verified]
      rfl
    · have refused := eq_false_of_ne_true admits
      rw [if_neg admits, refused]
      rfl
  · rw [if_pos (mt Algorithm.name_injective same), if_pos same]

theorem extract_foreign :
    verifier.extract (signer.create entropy claims issued) now =
      if signer.algorithm ≠ verifier.algorithm then .error .foreignAlgorithm
      else if Admits signer verifier entropy claims issued then
        verifier.judge (signer.payload claims issued) now.seconds
      else .error .badSignature := by
  rw [extract, authenticate_foreign signer verifier entropy claims issued lower upper]
  split
  · rfl
  split <;> rfl

theorem foreign_rejected
    (foreign : signer.algorithm ≠ verifier.algorithm ∨ signer.issuer ≠ verifier.issuer) :
    ∃ rejection ∈ [Rejection.foreignAlgorithm, .badSignature, .foreignIssuer],
      verifier.extract (signer.create entropy claims issued) now = .error rejection ∧
        rejection.message = "invalid token" := by
  rw [extract_foreign signer verifier entropy claims issued now lower upper]
  by_cases same : signer.algorithm = verifier.algorithm
  · rw [if_neg (not_not.mpr same)]
    have stranger : (signer.payload claims issued).issuer ≠ verifier.issuer :=
      foreign.resolve_left (not_not.mpr same)
    by_cases admits : Admits signer verifier entropy claims issued
    · -- Even a signature that is taken for the service's own leaves the issuer to be compared.
      refine ⟨.foreignIssuer, by simp, ?_, rfl⟩
      rw [if_pos admits, judge_eq, if_pos stranger]
    · exact ⟨.badSignature, by simp, if_neg admits, rfl⟩
  · exact ⟨.foreignAlgorithm, by simp, if_pos same, rfl⟩

omit lower upper

def quotedIssuer : TokenService where
  algorithm := .hs256
  key := .shared .sha256 [115]
  issuer := "\"wait.list\\u0022"

theorem foreign_rejected_quotedIssuer :
    ∃ rejection ∈ [Rejection.foreignAlgorithm, .badSignature, .foreignIssuer],
      ({ quotedIssuer with issuer := "wait.list\"" } : TokenService).extract
          (quotedIssuer.create [] quotedClaims ⟨0, 0, by decide⟩) ⟨0, 0, by decide⟩ =
        .error rejection ∧ rejection.message = "invalid token" :=
  foreign_rejected quotedIssuer { quotedIssuer with issuer := "wait.list\"" } [] quotedClaims
    ⟨0, 0, by decide⟩ ⟨0, 0, by decide⟩ (by decide) (by decide) (.inr (by decide))

end Enrolment.TokenService
