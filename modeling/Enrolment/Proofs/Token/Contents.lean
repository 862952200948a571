import Enrolment.Proofs.Json.Record
import Enrolment.Proofs.Text.Base64
import Enrolment.Proofs.Text.Lines
import Enrolment.Token.Service
import Mathlib.Tactic.SplitIfs

set_option autoImplicit false

namespace Enrolment.Token

open Json (Member)

theorem splitAt_token (header payload signature : List Char) (headerApart : '.' ∉ header)
    (payloadApart : '.' ∉ payload) (signatureApart : '.' ∉ signature) :
    splitAt '.' ((header ++ '.' :: payload) ++ '.' :: signature) =
      [header, payload, signature] :=
  splitAt_eq_triple_iff.mpr ⟨headerApart, payloadApart, signatureApart, rfl⟩

theorem isSegmentChar_symbol :
    ∀ value < 64, isSegmentChar (Base64.urlSafe.symbol value) = true := by decide

theorem isSegmentChar_encodeChars (bytes : Bytes) :
    ∀ char ∈ Base64.encodeChars Base64.urlSafe bytes, isSegmentChar char = true := by
  fun_induction Base64.encodeChars Base64.urlSafe bytes with
  | case1 a b c rest ih =>
    have aBound := a.toNat_lt
    have bBound := b.toNat_lt
    have cBound := c.toNat_lt
    simp only [List.forall_mem_cons]
    refine ⟨?_, ?_, ?_, ?_, ih⟩ <;> exact isSegmentChar_symbol _ (by omega)
  | case2 a b =>
    have aBound := a.toNat_lt
    have bBound := b.toNat_lt
    simp only [List.forall_mem_cons]
    refine ⟨?_, ?_, ?_, by simp [Base64.urlSafe]⟩ <;> exact isSegmentChar_symbol _ (by omega)
  | case3 a =>
    have aBound := a.toNat_lt
    simp only [List.forall_mem_cons]
    refine ⟨?_, ?_, by simp [Base64.urlSafe]⟩ <;> exact isSegmentChar_symbol _ (by omega)
  | case4 => simp

theorem not_mem_encodeChars {char : Char} (foreign : isSegmentChar char = false) (bytes : Bytes) :
    char ∉ Base64.encodeChars Base64.urlSafe bytes := by
  intro member
  rw [isSegmentChar_encodeChars bytes char member] at foreign
  cases foreign

theorem point_not_mem_encodeChars (bytes : Bytes) :
    '.' ∉ Base64.encodeChars Base64.urlSafe bytes :=
  not_mem_encodeChars (by decide) bytes

theorem segmentBytes?_encodeChars (bytes : Bytes) :
    segmentBytes? (Base64.encodeChars Base64.urlSafe bytes) = some bytes := by
  rw [segmentBytes?, Bytes.ofString_ofList]
  exact Base64.read?_encodeChars Base64.urlSafe (.inr rfl) bytes

theorem segmentBytes?_eq_some_iff {segment : List Char} {bytes : Bytes} :
    segmentBytes? segment = some bytes ↔ segment = Base64.encodeChars Base64.urlSafe bytes := by
  rw [segmentBytes?, Bytes.ofString_ofList, Base64.read?_eq_some_iff (.inr rfl)]
  exact ⟨Bytes.ofChars_injective, congrArg Bytes.ofChars⟩

theorem segment_ne_nil (json : String) (written : json ≠ "") : segment json ≠ [] := by
  intro empty
  have read := segmentBytes?_encodeChars (Bytes.ofString json)
  rw [← segment, empty, segmentBytes?, Bytes.ofString_ofList] at read
  have bytes : Bytes.ofString json = Bytes.ofString "" := by
    rw [Bytes.ofString_eq "", String.toList_empty, Bytes.ofChars_nil]
    exact (Option.some.inj read).symm
  exact written (Bytes.ofString_injective bytes)

theorem readSegment?_segment {α : Type} (reader : Json.Reader α) (json : String) :
    readSegment? reader (segment json) = (Json.document reader (Bytes.ofString json)).toOption := by
  simp [readSegment?, segment, segmentBytes?_encodeChars]

theorem object_ne_empty (members : List (String × String)) : Json.object members ≠ "" := by
  simp [Json.object]

def Header.entries (header : Header) : List (Member Header) :=
  [⟨.required "alg" Json.text fun value header => { header with algorithm := value },
      Json.quote header.algorithm, fun draft => { draft with algorithm := header.algorithm }⟩,
   ⟨.defaulted "typ" Json.text fun value header => { header with kind := value },
      Json.quote header.kind, fun draft => { draft with kind := header.kind }⟩]

theorem Header.entries_reads (header : Header) : ∀ entry ∈ header.entries, entry.Reads := by
  simp only [Header.entries, List.forall_mem_cons, List.not_mem_nil, false_implies, implies_true,
    and_true]
  exact ⟨Json.reads_required _ _ _ _ _ fun rest _ => Json.text_quote _ rest,
    Json.reads_defaulted _ _ _ _ _ fun rest _ => Json.text_quote _ rest⟩

theorem readSegment?_header (header : Header) :
    readSegment? Header.reader (segment header.toJson) = some header := by
  have distinct : (header.entries.map Member.name).Nodup := by
    change ["alg", "typ"].Nodup
    decide
  have read : Json.document Header.reader (Bytes.ofString header.toJson) = .ok header :=
    Json.document_object header.entries distinct header.entries_reads {}
  rw [readSegment?_segment, read]
  rfl

def Payload.Fits (payload : Payload) : Prop :=
  ∀ value ∈ [payload.expiry, payload.notBefore, payload.issuedAt],
    -(2 ^ 63) ≤ value ∧ value < 2 ^ 63

def Payload.entries (payload : Payload) : List (Member Payload) :=
  [⟨claimField "address" fun value claims => { claims with address := value },
      Json.quote payload.claims.address, fun draft =>
        { draft with claims := { draft.claims with address := payload.claims.address } }⟩,
   ⟨claimField "email" fun value claims => { claims with email := value },
      Json.quote payload.claims.email, fun draft =>
        { draft with claims := { draft.claims with email := payload.claims.email } }⟩,
   ⟨claimField "sponsor" fun value claims => { claims with sponsor := value },
      Json.quote payload.claims.sponsor, fun draft =>
        { draft with claims := { draft.claims with sponsor := payload.claims.sponsor } }⟩,
   ⟨.required "iss" Json.text fun value payload => { payload with issuer := value },
      Json.quote payload.issuer, fun draft => { draft with issuer := payload.issuer }⟩,
   ⟨.required "exp" Json.integer fun value payload => { payload with expiry := value },
      Json.integerText payload.expiry, fun draft => { draft with expiry := payload.expiry }⟩,
   ⟨.required "nbf" Json.integer fun value payload => { payload with notBefore := value },
      Json.integerText payload.notBefore, fun draft =>
        { draft with notBefore := payload.notBefore }⟩,
   ⟨.required "iat" Json.integer fun value payload => { payload with issuedAt := value },
      Json.integerText payload.issuedAt, fun draft => { draft with issuedAt := payload.issuedAt }⟩]

theorem Payload.entries_reads (payload : Payload) (fits : payload.Fits) :
    ∀ entry ∈ payload.entries, entry.Reads := by
  have integer (value : Int)
      (member : value ∈ [payload.expiry, payload.notBefore, payload.issuedAt])
      (rest : Bytes) (delimited : Json.IsDelimited rest) :
      Json.integer (Bytes.ofString (Json.integerText value) ++ rest) = .ok (value, rest) :=
    Json.integer_integerText value (fits value member).1 (fits value member).2 rest
      delimited.endsNumber
  simp only [Payload.entries, List.forall_mem_cons, List.not_mem_nil, false_implies, implies_true,
    and_true]
  exact ⟨Json.reads_defaulted _ _ _ _ _ fun rest _ => Json.text_quote _ rest,
    Json.reads_defaulted _ _ _ _ _ fun rest _ => Json.text_quote _ rest,
    Json.reads_defaulted _ _ _ _ _ fun rest _ => Json.text_quote _ rest,
    Json.reads_required _ _ _ _ _ fun rest _ => Json.text_quote _ rest,
    Json.reads_required _ _ _ _ _ (integer payload.expiry (by simp)),
    Json.reads_required _ _ _ _ _ (integer payload.notBefore (by simp)),
    Json.reads_required _ _ _ _ _ (integer payload.issuedAt (by simp))⟩

theorem readSegment?_payload (payload : Payload) (fits : payload.Fits) :
    readSegment? Payload.reader (segment payload.toJson) = some payload := by
  have distinct : (payload.entries.map Member.name).Nodup := by
    change ["address", "email", "sponsor", "iss", "exp", "nbf", "iat"].Nodup
    decide
  have read : Json.document Payload.reader (Bytes.ofString payload.toJson) = .ok payload :=
    Json.document_object payload.entries distinct (payload.entries_reads fits) {}
  rw [readSegment?_segment, read]
  rfl

end Enrolment.Token
