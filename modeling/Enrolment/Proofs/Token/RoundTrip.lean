import Enrolment.Proofs.Token.Contents

set_option autoImplicit false

namespace Enrolment

namespace SigningKey

-- Keyed tags are recomputed, so only the signatures of curves are taken on trust.
def Accepts (key : SigningKey) (entropy message : Bytes) : Prop :=
  ∀ scheme pair, key = .elliptic scheme pair →
    scheme.verify pair message (scheme.sign pair entropy message) = true

theorem verify_sign (key : SigningKey) (entropy message : Bytes)
    (accepts : key.Accepts entropy message) :
    key.verify message (key.sign entropy message) = true := by
  cases key with
  | shared function secret => simp [verify, sign]
  | elliptic scheme pair => exact accepts scheme pair rfl

end SigningKey

namespace TokenService

open Token

variable (service : TokenService)

def message (claims : Claims) (issued : Instant) : Bytes :=
  Bytes.ofString (String.ofList (service.signingInput claims issued))

def IsLive (issued now : Instant) : Prop :=
  issued.seconds ≤ now.seconds ∧ now.seconds < issued.seconds + service.window

theorem toInt64_bounds (value : Int) : -(2 ^ 63) ≤ toInt64 value ∧ toInt64 value < 2 ^ 63 := by
  have lower := Int.le_bmod (x := value) (m := UInt64.size) (by decide)
  have upper := Int.bmod_lt (x := value) (m := UInt64.size) (by decide)
  simp only [UInt64.size] at lower upper
  simp only [toInt64, UInt64.size]
  omega

theorem toInt64_of_fits (value : Int) (lower : -(2 ^ 63) ≤ value) (upper : value < 2 ^ 63) :
    toInt64 value = value :=
  Int.bmod_eq_of_le (by simp only [UInt64.size]; omega) (by simp only [UInt64.size]; omega)

theorem expiry_of_fits (issued : Int) (lower : -(2 ^ 63) ≤ issued)
    (upper : issued + service.window < 2 ^ 63) :
    service.expiry issued = issued + service.window := by
  rw [expiry, toInt64, toInt64, Int.add_bmod_bmod]
  exact toInt64_of_fits _ (by omega) upper

theorem payload_fits (claims : Claims) (issued : Instant) (lower : -(2 ^ 63) ≤ issued.seconds)
    (upper : issued.seconds < 2 ^ 63) : (service.payload claims issued).Fits := by
  have expiry : -(2 ^ 63) ≤ service.expiry issued.seconds ∧
      service.expiry issued.seconds < 2 ^ 63 := toInt64_bounds _
  intro value member
  simp only [payload, List.mem_cons, List.not_mem_nil, or_false] at member
  rcases member with rfl | rfl | rfl
  · exact expiry
  · exact ⟨lower, upper⟩
  · exact ⟨lower, upper⟩

theorem splitAt_create (entropy : Bytes) (claims : Claims) (issued : Instant) :
    splitAt '.' (service.create entropy claims issued).toList =
      [Token.segment service.header.toJson, Token.segment (service.payload claims issued).toJson,
        Base64.encodeChars Base64.urlSafe
          (service.key.sign entropy (service.message claims issued))] := by
  simp only [create, String.toList_ofList]
  exact splitAt_token _ _ _ (point_not_mem_encodeChars _) (point_not_mem_encodeChars _)
    (point_not_mem_encodeChars _)

theorem isWellFormed_create (entropy : Bytes) (claims : Claims) (issued : Instant) :
    isWellFormed (service.create entropy claims issued) = true := by
  have header := segment_ne_nil service.header.toJson (object_ne_empty _)
  have payload := segment_ne_nil (service.payload claims issued).toJson (object_ne_empty _)
  simp only [isWellFormed, splitAt_create, Bool.and_eq_true, Bool.not_eq_true',
    List.isEmpty_eq_false_iff, List.all_eq_true]
  exact ⟨⟨⟨⟨header, payload⟩, isSegmentChar_encodeChars _⟩, isSegmentChar_encodeChars _⟩,
    isSegmentChar_encodeChars _⟩

theorem authenticate_create (entropy : Bytes) (claims : Claims) (issued : Instant)
    (lower : -(2 ^ 63) ≤ issued.seconds) (upper : issued.seconds < 2 ^ 63)
    (accepts : service.key.Accepts entropy (service.message claims issued)) :
    service.authenticate (service.create entropy claims issued) =
      .ok (service.payload claims issued) := by
  have header := readSegment?_header service.header
  have payload := readSegment?_payload _ (service.payload_fits claims issued lower upper)
  have signature := segmentBytes?_encodeChars
    (service.key.sign entropy (service.message claims issued))
  have verified := service.key.verify_sign entropy _ accepts
  rw [authenticate, splitAt_create]
  simp only [header, payload, signature]
  -- The header names the service's own algorithm, and the signature is the key's own.
  change (if service.header.algorithm ≠ service.algorithm.name then _ else _) = _
  rw [if_neg (by simp [TokenService.header])]
  change (if (!service.key.verify (service.message claims issued) _) = true then _ else _) = _
  rw [verified]
  rfl

theorem judge_payload (claims : Claims) (issued : Instant) (now : Int) :
    service.judge (service.payload claims issued) now =
      if now < issued.seconds then .error .notYetValid
      else if service.expiry issued.seconds ≤ now then .error .expired
      else if claims.isComplete then .ok claims
      else .error .incompleteClaims := by
  -- A token is valid from the second in which it is issued, so one bound stands for two.
  simp only [judge, payload, or_self]
  by_cases early : now < issued.seconds
  · simp [early]
    rfl
  by_cases late : service.expiry issued.seconds ≤ now
  · simp [early, late]
    rfl
  by_cases complete : claims.isComplete <;> simp [early, late, complete] <;> rfl

theorem extract_create_expiry (entropy : Bytes) (claims : Claims) (issued now : Instant)
    (lower : -(2 ^ 63) ≤ issued.seconds) (upper : issued.seconds < 2 ^ 63)
    (accepts : service.key.Accepts entropy (service.message claims issued)) :
    service.extract (service.create entropy claims issued) now =
      if now.seconds < issued.seconds then .error .notYetValid
      else if service.expiry issued.seconds ≤ now.seconds then .error .expired
      else if claims.isComplete then .ok claims
      else .error .incompleteClaims := by
  have authentic := service.authenticate_create entropy claims issued lower upper accepts
  rw [extract, authentic]
  exact service.judge_payload claims issued now.seconds

theorem extract_create_cases (entropy : Bytes) (claims : Claims) (issued now : Instant)
    (lower : -(2 ^ 63) ≤ issued.seconds) (upper : issued.seconds + service.window < 2 ^ 63)
    (accepts : service.key.Accepts entropy (service.message claims issued)) :
    service.extract (service.create entropy claims issued) now =
      if now.seconds < issued.seconds then .error .notYetValid
      else if issued.seconds + service.window ≤ now.seconds then .error .expired
      else if claims.isComplete then .ok claims
      else .error .incompleteClaims := by
  have expiry := service.expiry_of_fits issued.seconds lower upper
  rw [service.extract_create_expiry entropy claims issued now lower (by omega) accepts, expiry]

theorem extract_create (entropy : Bytes) (claims : Claims) (issued now : Instant)
    (lower : -(2 ^ 63) ≤ issued.seconds) (upper : issued.seconds + service.window < 2 ^ 63)
    (accepts : service.key.Accepts entropy (service.message claims issued)) :
    (claims.isComplete = true ∧ service.IsLive issued now →
        service.extract (service.create entropy claims issued) now = .ok claims) ∧
      (¬(claims.isComplete = true ∧ service.IsLive issued now) →
        ∃ rejection, service.extract (service.create entropy claims issued) now = .error rejection ∧
          rejection.message = "invalid token") := by
  rw [service.extract_create_cases entropy claims issued now lower upper accepts]
  constructor
  · rintro ⟨complete, started, unexpired⟩
    rw [if_neg (by omega), if_neg (by omega), if_pos complete]
  · intro refused
    split_ifs with early late complete
    · exact ⟨.notYetValid, rfl, rfl⟩
    · exact ⟨.expired, rfl, rfl⟩
    · exact absurd ⟨complete, by omega, by omega⟩ refused
    · exact ⟨.incompleteClaims, rfl, rfl⟩

def curveService : TokenService where
  algorithm := .es256
  key := .elliptic Ecdsa.p256Sha256 ⟨1, Curve.p256.baseX, Curve.p256.baseY⟩

def quotedClaims : Claims := ⟨"\"ä", "b@c", "\\"⟩

set_option maxRecDepth 100000 in
theorem curveService_accepts :
    curveService.key.Accepts [7] (curveService.message quotedClaims ⟨-1, 5, by decide⟩) := by
  rintro scheme pair ⟨⟩
  simp only [message, signingInput, Token.segment, Bytes.ofString_eq]
  decide +kernel

theorem extract_create_curveService :
    curveService.extract (curveService.create [7] quotedClaims ⟨-1, 5, by decide⟩)
        ⟨598, 0, by decide⟩ = .ok quotedClaims ∧
      ∃ rejection, curveService.extract
          (curveService.create [7] quotedClaims ⟨-1, 5, by decide⟩) ⟨599, 0, by decide⟩ =
            .error rejection ∧ rejection.message = "invalid token" := by
  have before := curveService.extract_create [7] quotedClaims ⟨-1, 5, by decide⟩
    ⟨598, 0, by decide⟩ (by decide) (by decide) curveService_accepts
  have after := curveService.extract_create [7] quotedClaims ⟨-1, 5, by decide⟩
    ⟨599, 0, by decide⟩ (by decide) (by decide) curveService_accepts
  exact ⟨before.1 (by unfold IsLive; decide), after.2 (by unfold IsLive; decide)⟩

end TokenService

end Enrolment
