import Enrolment.Http.Listing
import Enrolment.Proofs.Calendar.Timestamps
import Enrolment.Proofs.Json.Record
import Enrolment.Proofs.Participant.Identifiers
import Enrolment.Proofs.Text.Csv

set_option autoImplicit false

namespace Enrolment

namespace Instant

theorem ofMillis_millis (instant : Instant) : ofMillis instant.millis =
    ⟨instant.seconds, instant.nanos / 1000000 * 1000000, by have := instant.nanos_lt; omega⟩ := by
  have bound := instant.nanos_lt
  simp only [ofMillis, ofNanos, millis, mk.injEq]
  omega

end Instant

namespace Participant

open Json (Member)

variable (participant : Participant)

def cut : Participant :=
  { participant with activatedAt := Instant.ofMillis participant.activatedAt.millis }

def entries : List (Member Participant) :=
  [⟨.required "address" Json.text fun value participant => { participant with address := value },
      Json.quote participant.address, fun draft => { draft with address := participant.address }⟩,
   ⟨.required "email" Json.text fun value participant => { participant with email := value },
      Json.quote participant.email, fun draft => { draft with email := participant.email }⟩,
   ⟨.required "uuid" (Json.refined Json.text Uuid.ofText?) fun value participant =>
        { participant with uuid := value },
      Json.quote participant.uuid.text, fun draft => { draft with uuid := participant.uuid }⟩,
   ⟨.required "timestamp" (Json.refined Json.integer instantOfMillis?) fun value participant =>
        { participant with activatedAt := value },
      Json.integerText participant.activatedAt.millis, fun draft =>
        { draft with activatedAt := Instant.ofMillis participant.activatedAt.millis }⟩,
   ⟨.required "sponsor" Json.text fun value participant => { participant with sponsor := value },
      Json.quote participant.sponsor, fun draft => { draft with sponsor := participant.sponsor }⟩]

variable {participant}

theorem millis_of_dated (dated : participant.activatedAt.IsDated) :
    -62167219200000 ≤ participant.activatedAt.millis ∧
      participant.activatedAt.millis < 253402300800000 := by
  have bound := participant.activatedAt.nanos_lt
  obtain ⟨lower, upper⟩ := (Instant.isDated_iff _).mp dated
  unfold Instant.millis
  omega

theorem entries_reads (dated : participant.activatedAt.IsDated) :
    ∀ entry ∈ participant.entries, entry.Reads := by
  obtain ⟨lower, upper⟩ := millis_of_dated dated
  have kept : instantOfMillis? participant.activatedAt.millis =
      some (Instant.ofMillis participant.activatedAt.millis) := if_pos (by omega)
  simp only [entries, List.forall_mem_cons, List.not_mem_nil, false_implies, implies_true, and_true]
  exact ⟨Json.reads_required _ _ _ _ _ fun rest _ => Json.text_quote _ rest,
    Json.reads_required _ _ _ _ _ fun rest _ => Json.text_quote _ rest,
    Json.reads_required _ _ _ _ _ fun rest _ =>
      Json.refined_eq_ok (Json.text_quote _ rest) participant.uuid.ofText?_text,
    Json.reads_required _ _ _ _ _ fun rest delimited => Json.refined_eq_ok
      (Json.integer_integerText _ (by omega) (by omega) rest delimited.endsNumber) kept,
    Json.reads_required _ _ _ _ _ fun rest _ => Json.text_quote _ rest⟩

theorem document_toJson (dated : participant.activatedAt.IsDated) :
    Json.document reader (Bytes.ofString participant.toJson) = .ok participant.cut := by
  have distinct : (participant.entries.map Member.name).Nodup := by
    change ["address", "email", "uuid", "timestamp", "sponsor"].Nodup
    decide
  exact Json.document_object participant.entries distinct (entries_reads dated) blank

def Tells (record : List (List Char)) (participant : Participant) : Prop :=
  ∃ uuid timestamp,
    record = [participant.address.toList, participant.email.toList, uuid, timestamp,
      participant.sponsor.toList] ∧
    Uuid.ofText? (String.ofList uuid) = some participant.uuid ∧
    Instant.ofText? timestamp = some participant.cut.activatedAt ∧
    Json.document reader (Bytes.ofString participant.toJson) = .ok participant.cut

theorem tells_csvRecord (dated : participant.activatedAt.IsDated) :
    Tells participant.csvRecord participant := by
  refine ⟨participant.uuid.text.toList, participant.activatedAt.text.toList, rfl, ?_,
    Instant.ofText?_text dated, document_toJson dated⟩
  rw [String.ofList_toList, Uuid.ofText?_text]

theorem cut_eq_of_tells {record : List (List Char)} {other : Participant}
    (told : Tells record participant) (again : Tells record other) :
    participant.cut = other.cut := by
  obtain ⟨uuid, timestamp, fields, sameUuid, time, -⟩ := told
  obtain ⟨_, _, otherFields, otherUuid, otherTime, -⟩ := again
  rw [fields] at otherFields
  simp only [List.cons.injEq, String.toList_inj, and_true] at otherFields
  obtain ⟨address, email, rfl, rfl, sponsor⟩ := otherFields
  have identity := Option.some.inj (sameUuid.symm.trans otherUuid)
  have cutTime := Option.some.inj (time.symm.trans otherTime)
  simp only [cut, mk.injEq]
  exact ⟨address, email, identity, cutTime, sponsor⟩

theorem csvRecord_cut (participant : Participant) :
    participant.cut.csvRecord = participant.csvRecord := by
  simp [csvRecord, cut, Instant.ofMillis_millis, Instant.text]

theorem parse?_toCsv (participants : List Participant) :
    Csv.parse? (toCsv participants) = some (csvHeader :: participants.map csvRecord) := by
  refine Csv.parse?_document _ fun record member => ?_
  rcases List.mem_cons.mp member with rfl | later
  · exact List.cons_ne_nil _ _
  · obtain ⟨participant, -, rfl⟩ := List.mem_map.mp later
    exact List.cons_ne_nil _ _

theorem tells_records {participants : List Participant}
    (dated : ∀ participant ∈ participants, participant.activatedAt.IsDated) :
    List.Forall₂ Tells (participants.map csvRecord) participants :=
  List.forall₂_map_left_iff.mpr <| List.forall₂_same.mpr fun participant member =>
    tells_csvRecord (dated participant member)

theorem map_cut_eq_of_tells {records : List (List (List Char))}
    {participants others : List Participant} (told : List.Forall₂ Tells records participants)
    (again : List.Forall₂ Tells records others) :
    participants.map cut = others.map cut := by
  induction told generalizing others with
  | nil =>
    cases again
    rfl
  | cons first _ ih =>
    cases again with
    | cons same more => rw [List.map_cons, List.map_cons, cut_eq_of_tells first same, ih more]

theorem toCsv_map_cut (participants : List Participant) :
    toCsv (participants.map cut) = toCsv participants := by
  simp [toCsv, csvRecord_cut, Function.comp_def]

theorem toCsv_lossless (participants : List Participant)
    (dated : ∀ participant ∈ participants, participant.activatedAt.IsDated) :
    (∃ records, Csv.parse? (toCsv participants) = some (csvHeader :: records) ∧
      List.Forall₂ Tells records participants) ∧
    ∀ others : List Participant, (∀ other ∈ others, other.activatedAt.IsDated) →
      (toCsv others = toCsv participants ↔ others.map cut = participants.map cut) := by
  refine ⟨⟨_, parse?_toCsv participants, tells_records dated⟩, fun others otherDated => ?_⟩
  constructor
  · intro same
    have read := congrArg Csv.parse? same
    rw [parse?_toCsv, parse?_toCsv, Option.some.injEq, List.cons_eq_cons] at read
    exact map_cut_eq_of_tells (read.2 ▸ tells_records otherDated) (tells_records dated)
  · intro same
    rw [← toCsv_map_cut others, same, toCsv_map_cut]

def quoted : Participant := ⟨"a,\"b\"\r\n", "", Uuid.ofNat 5, Instant.ofNanos (-1), " c "⟩

theorem toCsv_lossless_quoted :
    (∀ participant ∈ [quoted], participant.activatedAt.IsDated) ∧
    (∃ records, Csv.parse? (toCsv [quoted]) = some (csvHeader :: records) ∧
      List.Forall₂ Tells records [quoted]) ∧
    toCsv [{ quoted with activatedAt := Instant.ofNanos 0 }] ≠ toCsv [quoted] ∧
    toCsv [{ quoted with activatedAt := Instant.ofNanos (-1000000) }] = toCsv [quoted] := by
  have near (nanos : Int) (lower : -1000000 ≤ nanos) (upper : nanos ≤ 0) :
      ∀ participant ∈ [{ quoted with activatedAt := Instant.ofNanos nanos }],
        participant.activatedAt.IsDated := by
    simp only [List.mem_singleton, forall_eq, Instant.isDated_iff, Instant.ofNanos]
    omega
  have dated : ∀ participant ∈ [quoted], participant.activatedAt.IsDated :=
    near (-1) (by decide) (by decide)
  obtain ⟨records, apart⟩ := toCsv_lossless [quoted] dated
  refine ⟨dated, records, fun same => ?_, ?_⟩
  · have cuts := (apart _ (near 0 (by decide) (by decide))).mp same
    revert cuts
    decide
  · exact (apart _ (near (-1000000) (by decide) (by decide))).mpr (by decide)

end Participant

end Enrolment
