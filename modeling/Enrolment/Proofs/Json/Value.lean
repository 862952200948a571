import Enrolment.Json.Value
import Enrolment.Proofs.Json.Record

set_option autoImplicit false

namespace Enrolment.Json

theorem skipBlank_visible {byte : UInt8} (visible : isBlank byte = false) (rest : Bytes) :
    skipBlank (byte :: rest) = byte :: rest := by
  simp [skipBlank, visible]

-- The comma goes before all entries but the first.
theorem nextEntry_visible {closing byte : UInt8} (visible : isBlank byte = false)
    (goesOn : byte ≠ closing) (apart : closing ≠ 44) (rest : Bytes) :
    nextEntry closing true (byte :: rest) = .ok (some (byte :: rest)) ∧
      nextEntry closing false (44 :: byte :: rest) = .ok (some (byte :: rest)) := by
  have comma : isBlank 44 = false := by decide
  constructor
  · simp [nextEntry, skipBlank_visible visible, goesOn]
  · simp [nextEntry, skipBlank_visible comma, skipBlank_visible visible, goesOn, apart.symm]

theorem nextEntry_closing {closing : UInt8} (visible : isBlank closing = false) (first : Bool)
    (rest : Bytes) : nextEntry closing first (closing :: rest) = .ok none := by
  simp [nextEntry, skipBlank_visible visible]

namespace Value

structure Reads (depth : Nat) (value : Value) : Prop where
  opens : ∃ byte more, Bytes.ofString value.toJson = byte :: more ∧ isBlank byte = false ∧ byte ≠ 93
  read (rest : Bytes) : reader depth (Bytes.ofString value.toJson ++ rest) = .ok (value, rest)

variable {depth : Nat}

theorem reader_scalar (depth : Nat) {byte : UInt8} (visible : isBlank byte = false)
    (plain : byte ≠ 91 ∧ byte ≠ 123) (rest : Bytes) :
    reader depth (byte :: rest) = scalar (byte :: rest) := by
  cases depth <;> simp [reader, skipBlank_visible visible, plain]

theorem reads_null (depth : Nat) : Reads depth null := by
  have bytes : Bytes.ofString null.toJson = [110, 117, 108, 108] := by
    rw [Bytes.ofString_eq]
    decide
  refine ⟨⟨110, _, bytes, by decide, by decide⟩, fun rest => ?_⟩
  rw [bytes, List.cons_append, reader_scalar depth (by decide) (by decide)]
  rfl

theorem reads_text (depth : Nat) (value : String) : Reads depth (text value) where
  opens := ⟨34, _, ofString_quote value, by decide, by decide⟩
  read rest := by
    obtain ⟨contents, bytes, read⟩ := quote_bytes value rest
    rw [toJson, bytes, reader_scalar depth (by decide) (by decide)]
    simp [scalar, read, bind, Except.bind]
    rfl

def laterElements (values : List Value) : Bytes :=
  values.flatMap fun value => 44 :: Bytes.ofString value.toJson

theorem entries_step (fuel : Nat) {value : Value} (reads : Reads depth value) (read : List Value)
    {bytes : Bytes} {rest : Bytes}
    (next : nextEntry 93 read.isEmpty bytes = .ok (some (Bytes.ofString value.toJson ++ rest))) :
    entries (reader depth) (fuel + 1) read bytes =
      entries (reader depth) fuel (value :: read) rest := by
  rw [entries, next]
  simp only [reads.read]

theorem entries_later (values : List Value) (reads : ∀ value ∈ values, Reads depth value)
    (fuel : Nat) (enough : values.length < fuel) (last : Value) (read : List Value)
    (rest : Bytes) :
    entries (reader depth) fuel (last :: read) (laterElements values ++ 93 :: rest) =
      .ok ((last :: read).reverse ++ values, 93 :: rest) := by
  induction values generalizing fuel last read with
  | nil =>
    obtain ⟨left, rfl⟩ : ∃ left, fuel = left + 1 := ⟨fuel - 1, by simp at enough; omega⟩
    have closed : nextEntry 93 (last :: read).isEmpty (93 :: rest) = .ok none :=
      nextEntry_closing (by decide) _ rest
    rw [laterElements, List.flatMap_nil, List.nil_append, entries, closed, List.append_nil]
  | cons value more ih =>
    obtain ⟨left, rfl⟩ : ∃ left, fuel = left + 1 := ⟨fuel - 1, by simp at enough; omega⟩
    have first := reads value List.mem_cons_self
    obtain ⟨byte, tail, bytes, visible, goesOn⟩ := first.opens
    have next : nextEntry 93 (last :: read).isEmpty (laterElements (value :: more) ++ 93 :: rest) =
        .ok (some (Bytes.ofString value.toJson ++ (laterElements more ++ 93 :: rest))) := by
      rw [bytes]
      simpa [laterElements, bytes] using (nextEntry_visible visible goesOn (by decide) _).2
    rw [entries_step left first _ next,
      ih (fun other member => reads other (List.mem_cons_of_mem _ member)) left
        (by simpa using enough)]
    simp

theorem listJson_eq (values : List Value) : listJson values = values.map toJson := by
  induction values with
  | nil => rfl
  | cons value more ih => rw [listJson, ih, List.map_cons]

def elements : List Value → Bytes
  | [] => []
  | value :: more => Bytes.ofString value.toJson ++ laterElements more

theorem ofString_list (values : List Value) :
    Bytes.ofString (list values).toJson = 91 :: (elements values ++ [93]) := by
  obtain ⟨opening, closing, -, -, comma, -, empty⟩ := ofString_signs
  rw [toJson, listJson_eq, array, Bytes.ofString_append, Bytes.ofString_append, opening, closing]
  cases values with
  | nil => simp [empty, elements]
  | cons value more => simp [ofString_intercalate, elements, laterElements, List.flatMap_map, comma]

theorem entries_elements {values : List Value} (reads : ∀ value ∈ values, Reads depth value)
    (rest : Bytes) :
    entries (reader depth) ((elements values ++ 93 :: rest).length + 1) []
        (elements values ++ 93 :: rest) = .ok (values, 93 :: rest) := by
  cases values with
  | nil =>
    have closed : nextEntry 93 true (93 :: rest) = .ok none := nextEntry_closing (by decide) _ rest
    rw [elements, List.nil_append, entries, List.isEmpty_nil, closed]
    rfl
  | cons value more =>
    have first := reads value List.mem_cons_self
    obtain ⟨byte, tail, bytes, visible, goesOn⟩ := first.opens
    have next : nextEntry 93 true (elements (value :: more) ++ 93 :: rest) =
        .ok (some (Bytes.ofString value.toJson ++ (laterElements more ++ 93 :: rest))) := by
      rw [bytes]
      simpa [elements, bytes] using (nextEntry_visible visible goesOn (by decide) _).1
    have short : more.length ≤ (laterElements more).length := length_le_flatMap more _
    rw [entries_step _ first [] next,
      entries_later more (fun other member => reads other (List.mem_cons_of_mem _ member)) _
        (by simp [elements]; omega)]
    simp

theorem reads_list {values : List Value} (reads : ∀ value ∈ values, Reads depth value) :
    Reads (depth + 1) (list values) := by
  have bytes := ofString_list values
  refine ⟨⟨91, _, bytes, by decide, by decide⟩, fun rest => ?_⟩
  have visible : isBlank 91 = false := by decide
  have closed : close 93 (93 :: rest) = .ok rest := rfl
  have read := entries_elements reads rest
  rw [bytes, List.cons_append, List.append_assoc, List.singleton_append]
  simp only [reader, skipBlank_visible visible, read, bind, Except.bind, closed]
  rfl

def memberBytes (member : String × Value) : Bytes :=
  Bytes.ofString (quote member.1) ++ 58 :: Bytes.ofString member.2.toJson

def laterMembers (values : List (String × Value)) : Bytes :=
  values.flatMap fun member => 44 :: memberBytes member

theorem put_fresh {name : String} {read : List (String × Value)} (fresh : name ∉ read.map Prod.fst)
    (value : Value) : put name value read = read ++ [(name, value)] := by
  induction read with
  | nil => rfl
  | cons member more ih =>
    simp only [List.map_cons, List.mem_cons, not_or] at fresh
    rw [put, if_neg (Ne.symm fresh.1), ih fresh.2, List.cons_append]

theorem members_step (fuel : Nat) (first : Bool) {member : String × Value}
    (reads : Reads depth member.2) {read : List (String × Value)}
    (fresh : member.1 ∉ read.map Prod.fst) {bytes rest : Bytes}
    (next : nextEntry 125 first bytes = .ok (some (memberBytes member ++ rest))) :
    members (reader depth) (fuel + 1) first read bytes =
      members (reader depth) fuel false (read ++ [member]) rest := by
  obtain ⟨contents, shape, name⟩ :=
    quote_bytes member.1 (58 :: (Bytes.ofString member.2.toJson ++ rest))
  have bytes_eq : memberBytes member ++ rest = 34 :: contents := by
    rw [← shape]
    simp [memberBytes]
  have colonRead : colon (58 :: (Bytes.ofString member.2.toJson ++ rest)) =
      .ok (Bytes.ofString member.2.toJson ++ rest) := rfl
  rw [members, next, bytes_eq]
  simp only [bind, Except.bind, memberName, name, colonRead, reads.read, put_fresh fresh]

theorem members_end (fuel : Nat) (first : Bool) (read : List (String × Value)) (rest : Bytes) :
    members (reader depth) (fuel + 1) first read (125 :: rest) = .ok (read, 125 :: rest) := by
  have closed : nextEntry 125 first (125 :: rest) = .ok none := nextEntry_closing (by decide) _ rest
  rw [members, closed]
  rfl

theorem nextEntry_member (member : String × Value) (rest : Bytes) :
    nextEntry 125 true (memberBytes member ++ rest) = .ok (some (memberBytes member ++ rest)) ∧
      nextEntry 125 false (44 :: (memberBytes member ++ rest)) =
        .ok (some (memberBytes member ++ rest)) := by
  have bytes := ofString_quote member.1
  rw [memberBytes, bytes]
  exact nextEntry_visible (by decide) (by decide) (by decide) _

theorem members_later (later : List (String × Value))
    (reads : ∀ member ∈ later, Reads depth member.2) (fuel : Nat) (enough : later.length < fuel)
    (read : List (String × Value)) (distinct : ((read ++ later).map Prod.fst).Nodup)
    (rest : Bytes) :
    members (reader depth) fuel false read (laterMembers later ++ 125 :: rest) =
      .ok (read ++ later, 125 :: rest) := by
  induction later generalizing fuel read with
  | nil =>
    obtain ⟨left, rfl⟩ : ∃ left, fuel = left + 1 := ⟨fuel - 1, by simp at enough; omega⟩
    rw [List.append_nil]
    exact members_end left false read rest
  | cons member more ih =>
    obtain ⟨left, rfl⟩ : ∃ left, fuel = left + 1 := ⟨fuel - 1, by simp at enough; omega⟩
    have fresh : member.1 ∉ read.map Prod.fst := by
      rw [List.map_append, List.nodup_append] at distinct
      intro taken
      exact distinct.2.2 _ taken _ (by simp) rfl
    have next : nextEntry 125 false (laterMembers (member :: more) ++ 125 :: rest) =
        .ok (some (memberBytes member ++ (laterMembers more ++ 125 :: rest))) := by
      simpa [laterMembers] using (nextEntry_member member (laterMembers more ++ 125 :: rest)).2
    rw [members_step left false (reads member List.mem_cons_self) fresh next,
      ih (fun other among => reads other (List.mem_cons_of_mem _ among)) left
        (by simpa using enough) _ (by simpa using distinct)]
    simp

theorem membersJson_eq (values : List (String × Value)) :
    membersJson values = values.map fun member => (member.1, member.2.toJson) := by
  induction values with
  | nil => rfl
  | cons member more ih => rw [membersJson, ih, List.map_cons]

def allMembers : List (String × Value) → Bytes
  | [] => []
  | member :: more => memberBytes member ++ laterMembers more

theorem ofString_object (values : List (String × Value)) :
    Bytes.ofString (object values).toJson = 123 :: (allMembers values ++ [125]) := by
  obtain ⟨-, -, opening, closing, comma, colonSign, empty⟩ := ofString_signs
  rw [toJson, membersJson_eq, Json.object, Bytes.ofString_append, Bytes.ofString_append, opening,
    closing]
  cases values with
  | nil => simp [empty, allMembers]
  | cons member more =>
    simp [ofString_intercalate, allMembers, laterMembers, memberBytes, List.flatMap_map, comma,
      colonSign, Bytes.ofString_append]

theorem members_all {values : List (String × Value)}
    (reads : ∀ member ∈ values, Reads depth member.2) (distinct : (values.map Prod.fst).Nodup)
    (rest : Bytes) :
    members (reader depth) ((allMembers values ++ 125 :: rest).length + 1) true []
        (allMembers values ++ 125 :: rest) = .ok (values, 125 :: rest) := by
  cases values with
  | nil => exact members_end _ true [] rest
  | cons member more =>
    have next : nextEntry 125 true (allMembers (member :: more) ++ 125 :: rest) =
        .ok (some (memberBytes member ++ (laterMembers more ++ 125 :: rest))) := by
      simpa [allMembers] using (nextEntry_member member (laterMembers more ++ 125 :: rest)).1
    have short : more.length ≤ (laterMembers more).length := length_le_flatMap more memberBytes
    rw [members_step _ true (reads member List.mem_cons_self) (by simp) next,
      members_later more (fun other among => reads other (List.mem_cons_of_mem _ among)) _
        (by simp [allMembers]; omega) _ (by simpa using distinct)]
    simp

theorem reads_object {values : List (String × Value)}
    (reads : ∀ member ∈ values, Reads depth member.2) (distinct : (values.map Prod.fst).Nodup) :
    Reads (depth + 1) (object values) := by
  have bytes := ofString_object values
  refine ⟨⟨123, _, bytes, by decide, by decide⟩, fun rest => ?_⟩
  have visible : isBlank 123 = false := by decide
  have closed : close 125 (125 :: rest) = .ok rest := rfl
  have read := members_all reads distinct rest
  rw [bytes, List.cons_append, List.append_assoc, List.singleton_append]
  simp only [reader, skipBlank_visible visible, read, bind, Except.bind, closed]
  rfl

theorem parse_toJson {value : Value} (reads : Reads nestingLimit value) :
    parse value.toJson = .ok value := by
  have read := reads.read []
  rw [List.append_nil] at read
  simp only [parse, document, read, bind, Except.bind]
  rfl

end Value

end Enrolment.Json
