import Enrolment.Proofs.Token.RoundTrip

set_option autoImplicit false

namespace Enrolment

theorem Algorithm.name_injective {left right : Algorithm} (same : left.name = right.name) :
    left = right := by
  cases left <;> cases right <;> first | rfl | exact absurd same (by decide)

namespace TokenService

open Token

variable {service : TokenService}

theorem authenticate_eq {token : String} {headerText payloadText signatureText : List Char}
    (parts : splitAt '.' token.toList = [headerText, payloadText, signatureText]) :
    service.authenticate token =
      match readSegment? Header.reader headerText with
      | none => .error .malformedHeader
      | some header =>
        if header.algorithm ≠ service.algorithm.name then .error .foreignAlgorithm
        else
          match segmentBytes? signatureText with
          | none => .error .malformedSignature
          | some signature =>
            if !service.key.verify
                (Bytes.ofString (String.ofList (headerText ++ '.' :: payloadText))) signature then
              .error .badSignature
            else
              match readSegment? Payload.reader payloadText with
              | none => .error .malformedPayload
              | some payload => .ok payload := by
  rw [authenticate, parts]
  rfl

theorem judge_eq (payload : Payload) (now : Int) :
    service.judge payload now =
      if payload.issuer ≠ service.issuer then .error .foreignIssuer
      else if now < payload.notBefore ∨ now < payload.issuedAt then .error .notYetValid
      else if payload.expiry ≤ now then .error .expired
      else if payload.claims.isComplete then .ok payload.claims
      else .error .incompleteClaims :=
  rfl

theorem judge_ok {payload : Payload} {now : Int} {claims : Claims}
    (judged : service.judge payload now = .ok claims) :
    payload.claims = claims ∧ payload.issuer = service.issuer ∧ payload.issuedAt ≤ now ∧
      now < payload.expiry := by
  rw [judge_eq] at judged
  split_ifs at judged with foreign early late complete
  exact ⟨Except.ok.inj judged, not_not.mp foreign, by omega, by omega⟩

theorem extract_ok {token : String} {now : Instant} {claims : Claims}
    (extracted : service.extract token now = .ok claims) :
    ∃ payload, service.authenticate token = .ok payload ∧
      service.judge payload now.seconds = .ok claims := by
  cases authentic : service.authenticate token with
  | error rejection =>
    rw [extract, authentic] at extracted
    cases extracted
  | ok payload =>
    rw [extract, authentic] at extracted
    exact ⟨payload, rfl, extracted⟩

def attested? (service : TokenService) (token : String) : Option Bytes :=
  match splitAt '.' token.toList with
  | [headerText, payloadText, signatureText] => do
    let signature ← segmentBytes? signatureText
    let message := Bytes.ofString (String.ofList (headerText ++ '.' :: payloadText))
    if service.key.verify message signature then some message else none
  | _ => none

theorem attested?_create (entropy : Bytes) (claims : Claims) (issued : Instant)
    (accepts : service.key.Accepts entropy (service.message claims issued)) :
    service.attested? (service.create entropy claims issued) =
      some (service.message claims issued) := by
  have verified := service.key.verify_sign entropy _ accepts
  simp only [attested?, splitAt_create, segmentBytes?_encodeChars, Option.bind_eq_bind,
    Option.bind_some]
  exact if_pos verified

structure Bears (service : TokenService) (token : String) (payload : Payload)
    (headerText payloadText signatureText : List Char) : Prop where
  parts : splitAt '.' token.toList = [headerText, payloadText, signatureText]
  header : ∃ header, readSegment? Header.reader headerText = some header ∧
    header.algorithm = service.algorithm.name
  signature : ∃ signature, segmentBytes? signatureText = some signature ∧
    service.key.verify (Bytes.ofString (String.ofList (headerText ++ '.' :: payloadText)))
      signature = true
  payload : readSegment? Payload.reader payloadText = some payload

theorem bears_of_authenticate {token : String} {payload : Payload}
    (authentic : service.authenticate token = .ok payload) :
    ∃ headerText payloadText signatureText,
      service.Bears token payload headerText payloadText signatureText := by
  by_cases three : ∃ headerText payloadText signatureText,
      splitAt '.' token.toList = [headerText, payloadText, signatureText]
  · obtain ⟨headerText, payloadText, signatureText, parts⟩ := three
    rw [authenticate_eq parts] at authentic
    -- Each check that fails has ended in an error, so all of them were passed.
    split at authentic
    · cases authentic
    next header headerRead =>
    split_ifs at authentic with foreign
    split at authentic
    · cases authentic
    next signature signatureRead =>
    split_ifs at authentic with forged
    split at authentic
    · cases authentic
    next found payloadRead =>
    cases authentic
    exact ⟨headerText, payloadText, signatureText, parts,
      ⟨header, headerRead, not_not.mp foreign⟩, ⟨signature, signatureRead, by simpa using forged⟩,
      payloadRead⟩
  · unfold authenticate at authentic
    split at authentic
    next parts => exact absurd ⟨_, _, _, parts⟩ three
    next => cases authentic

structure Vouches (service : TokenService) (token : String) (payload : Payload)
    (headerText payloadText : List Char) : Prop where
  header_apart : '.' ∉ headerText
  payload_apart : '.' ∉ payloadText
  attested : service.attested? token =
    some (Bytes.ofString (String.ofList (headerText ++ '.' :: payloadText)))
  header_read : ∃ header, readSegment? Header.reader headerText = some header ∧
    header.algorithm = service.algorithm.name
  payload_read : readSegment? Payload.reader payloadText = some payload

theorem vouches_of_authenticate {token : String} {payload : Payload}
    (authentic : service.authenticate token = .ok payload) :
    ∃ headerText payloadText, service.Vouches token payload headerText payloadText := by
  obtain ⟨headerText, payloadText, signatureText, bears⟩ := bears_of_authenticate authentic
  obtain ⟨headerApart, payloadApart, -⟩ := splitAt_eq_triple_iff.mp bears.parts
  obtain ⟨signature, signatureRead, verified⟩ := bears.signature
  refine ⟨headerText, payloadText, headerApart, payloadApart, ?_, bears.header, bears.payload⟩
  simp only [attested?, bears.parts, signatureRead, Option.bind_eq_bind, Option.bind_some]
  exact if_pos verified

theorem message_injective (signer : TokenService) (claims : Claims) (issued : Instant)
    {headerText payloadText : List Char} (headerApart : '.' ∉ headerText)
    (payloadApart : '.' ∉ payloadText)
    (same : signer.message claims issued =
      Bytes.ofString (String.ofList (headerText ++ '.' :: payloadText))) :
    headerText = Token.segment signer.header.toJson ∧
      payloadText = Token.segment (signer.payload claims issued).toJson := by
  rw [message, Bytes.ofString_ofList, Bytes.ofString_ofList] at same
  -- No segment holds a point, so the message splits where it was joined.
  have parts := congrArg (splitAt '.') (Bytes.ofChars_injective same)
  rw [signingInput, Token.segment, Token.segment,
    splitAt_append _ _ _ (point_not_mem_encodeChars _),
    splitAt_part _ _ (point_not_mem_encodeChars _), splitAt_append _ _ _ headerApart,
    splitAt_part _ _ payloadApart] at parts
  injection parts with header rest
  injection rest with payload
  exact ⟨header.symm, payload.symm⟩

structure Echoes (service signer : TokenService) (claims : Claims) (issued now : Int)
    (found : Claims) : Prop where
  algorithm : signer.algorithm = service.algorithm
  issuer : signer.issuer = service.issuer
  claims : found = claims
  started : issued ≤ now
  unexpired : now < signer.expiry issued

theorem attested?_of_extract {token : String} {now : Instant} {claims : Claims}
    (extracted : service.extract token now = .ok claims) :
    ∃ message, service.attested? token = some message := by
  obtain ⟨payload, authentic, -⟩ := extract_ok extracted
  obtain ⟨headerText, payloadText, vouches⟩ := vouches_of_authenticate authentic
  exact ⟨_, vouches.attested⟩

theorem echoes_of_extract {signer : TokenService} {token : String} {claims found : Claims}
    {issued now : Instant} (lower : -(2 ^ 63) ≤ issued.seconds) (upper : issued.seconds < 2 ^ 63)
    (attested : service.attested? token = some (signer.message claims issued))
    (extracted : service.extract token now = .ok found) :
    service.Echoes signer claims issued.seconds now.seconds found := by
  obtain ⟨payload, authentic, judged⟩ := extract_ok extracted
  obtain ⟨headerText, payloadText, vouches⟩ := vouches_of_authenticate authentic
  have same := Option.some.inj (attested.symm.trans vouches.attested)
  obtain ⟨rfl, rfl⟩ := message_injective signer claims issued vouches.header_apart
    vouches.payload_apart same
  obtain ⟨header, headerRead, algorithm⟩ := vouches.header_read
  have payloadRead := vouches.payload_read
  -- Both segments are the signer's, and they read back as what it wrote.
  rw [readSegment?_header] at headerRead
  rw [readSegment?_payload _ (signer.payload_fits claims issued lower upper)] at payloadRead
  cases headerRead
  cases payloadRead
  obtain ⟨carried, issuer, started, unexpired⟩ := judge_ok judged
  exact ⟨Algorithm.name_injective algorithm, issuer, carried.symm, started, unexpired⟩

end TokenService

end Enrolment
