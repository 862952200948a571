import Enrolment.Proofs.Json.Integer
import Enrolment.Proofs.Json.Text

set_option autoImplicit false

namespace Enrolment.Json

def IsDelimited (rest : Bytes) : Prop := ∃ sign more, rest = sign :: more ∧ (sign = 44 ∨ sign = 125)

theorem IsDelimited.endsNumber {rest : Bytes} (delimited : IsDelimited rest) : EndsNumber rest := by
  obtain ⟨sign, more, rfl, comma | brace⟩ := delimited
  · subst comma
    rintro byte ⟨⟩
    decide
  · subst brace
    rintro byte ⟨⟩
    decide

variable {δ : Type}

structure Member (δ : Type) where
  field : Field δ
  text : String
  set : δ → δ

namespace Member

def name (entry : Member δ) : String := entry.field.name

def Reads (entry : Member δ) : Prop :=
  ∀ rest, IsDelimited rest →
    entry.field.read (Bytes.ofString entry.text ++ rest) = .ok (entry.set, rest)

def bytes (entry : Member δ) : Bytes :=
  Bytes.ofString (quote entry.name) ++ 58 :: Bytes.ofString entry.text

def applyAll (entries : List (Member δ)) (draft : δ) : δ :=
  entries.foldl (fun draft entry => entry.set draft) draft

end Member

def laterBytes (entries : List (Member δ)) : Bytes := entries.flatMap fun entry => 44 :: entry.bytes

theorem laterBytes_delimited (entries : List (Member δ)) (rest : Bytes) :
    IsDelimited (laterBytes entries ++ 125 :: rest) := by
  cases entries with
  | nil => exact ⟨125, rest, rfl, .inr rfl⟩
  | cons entry more => exact ⟨44, _, rfl, .inl rfl⟩

-- Each entry costs a unit of fuel, and has at least its comma.
theorem length_le_flatMap {α : Type} (values : List α) (bytes : α → Bytes) :
    values.length ≤ (values.flatMap fun value => 44 :: bytes value).length := by
  induction values with
  | nil => exact Nat.le_refl 0
  | cons value more ih =>
    simp only [List.flatMap_cons, List.length_append, List.length_cons] at ih ⊢
    omega

theorem bytes_eq (entry : Member δ) (rest : Bytes) :
    ∃ contents, entry.bytes ++ rest = 34 :: contents ∧
      stringAfterQuote contents = .ok (entry.name, 58 :: (Bytes.ofString entry.text ++ rest)) := by
  have shape : entry.bytes ++ rest =
      Bytes.ofString (quote entry.name) ++ 58 :: (Bytes.ofString entry.text ++ rest) := by
    simp [Member.bytes]
  rw [shape]
  exact quote_bytes entry.name _

theorem nextEntry_first (entry : Member δ) (rest : Bytes) :
    nextEntry 125 true (entry.bytes ++ rest) = .ok (some (entry.bytes ++ rest)) := by
  obtain ⟨contents, shape, -⟩ := bytes_eq entry rest
  rw [shape]
  rfl

theorem nextEntry_later (entry : Member δ) (rest : Bytes) :
    nextEntry 125 false (44 :: (entry.bytes ++ rest)) = .ok (some (entry.bytes ++ rest)) := by
  obtain ⟨contents, shape, -⟩ := bytes_eq entry rest
  rw [shape]
  rfl

section Members

variable (fields : List (Field δ))

def Known (entry : Member δ) : Prop :=
  fields.find? (fun field => field.name == entry.name) = some entry.field

-- One round of the loop over members, wherever the comma before the member went.
theorem members_step (fuel : Nat) (first : Bool) (seen : List String) (draft : δ)
    (entry : Member δ) (bytes rest : Bytes)
    (next : nextEntry 125 first bytes = .ok (some (entry.bytes ++ rest)))
    (known : Known fields entry) (reads : entry.Reads) (fresh : entry.name ∉ seen)
    (delimited : IsDelimited rest) :
    members fields (fuel + 1) first seen draft bytes =
      members fields fuel false (entry.name :: seen) (entry.set draft) rest := by
  obtain ⟨contents, shape, name⟩ := bytes_eq entry rest
  have found : fields.find? (fun field => field.name == entry.name) = some entry.field := known
  have colonRead : colon (58 :: (Bytes.ofString entry.text ++ rest)) =
      .ok (Bytes.ofString entry.text ++ rest) := rfl
  have unseen : seen.contains entry.name = false := by simpa using fresh
  rw [members, next, shape]
  simp only [bind, Except.bind, memberName, name, found, unseen, colonRead, reads rest delimited]
  rfl

theorem members_end (fuel : Nat) (first : Bool) (seen : List String) (draft : δ) (rest : Bytes) :
    members fields (fuel + 1) first seen draft (125 :: rest) =
      (fillAbsent seen fields draft).map fun draft => (draft, 125 :: rest) := by
  have closed : nextEntry 125 first (125 :: rest) = .ok none := rfl
  rw [members, closed]
  cases filled : fillAbsent seen fields draft <;> rfl

theorem members_later (entries : List (Member δ)) (known : ∀ entry ∈ entries, Known fields entry)
    (reads : ∀ entry ∈ entries, entry.Reads) (distinct : (entries.map Member.name).Nodup)
    (fuel : Nat) (enough : entries.length < fuel) (seen : List String)
    (fresh : ∀ entry ∈ entries, entry.name ∉ seen) (draft : δ) (rest : Bytes) :
    members fields fuel false seen draft (laterBytes entries ++ 125 :: rest) =
      (fillAbsent ((entries.map Member.name).reverse ++ seen) fields
        (Member.applyAll entries draft)).map fun draft => (draft, 125 :: rest) := by
  -- A round takes one member and one unit of fuel, and adds one name to those seen.
  induction entries generalizing fuel seen draft with
  | nil =>
    obtain ⟨left, rfl⟩ : ∃ left, fuel = left + 1 := ⟨fuel - 1, by simp at enough; omega⟩
    exact members_end fields left false seen draft rest
  | cons entry more ih =>
    obtain ⟨left, rfl⟩ : ∃ left, fuel = left + 1 := ⟨fuel - 1, by simp at enough; omega⟩
    obtain ⟨apart, distinctLater⟩ := List.nodup_cons.mp distinct
    have next := nextEntry_later entry (laterBytes more ++ 125 :: rest)
    have step := members_step fields left false seen draft entry _ _ next (known entry (by simp))
      (reads entry (by simp)) (fresh entry (by simp)) (laterBytes_delimited more rest)
    have freshLater : ∀ other ∈ more, other.name ∉ entry.name :: seen := by
      intro other member
      simp only [List.mem_cons, not_or]
      refine ⟨fun same => apart ?_, fresh other (List.mem_cons_of_mem _ member)⟩
      rw [← same]
      exact List.mem_map_of_mem member
    have later := ih (fun other member => known other (List.mem_cons_of_mem _ member))
      (fun other member => reads other (List.mem_cons_of_mem _ member)) distinctLater left
      (by simpa using enough) (entry.name :: seen) freshLater (entry.set draft)
    have shape : laterBytes (entry :: more) ++ 125 :: rest =
        44 :: (entry.bytes ++ (laterBytes more ++ 125 :: rest)) := by
      simp [laterBytes]
    rw [shape, step, later]
    simp [Member.applyAll]

theorem fillAbsent_complete (seen : List String) (complete : ∀ field ∈ fields, field.name ∈ seen)
    (draft : δ) : fillAbsent seen fields draft = .ok draft := by
  induction fields with
  | nil => rfl
  | cons field more ih =>
    have present : seen.contains field.name = true := by simpa using complete field (by simp)
    rw [fillAbsent, if_pos present]
    exact ih (fun other member => complete other (List.mem_cons_of_mem _ member))

end Members

theorem known_of_distinct (entries : List (Member δ)) (distinct : (entries.map Member.name).Nodup) :
    ∀ entry ∈ entries, Known (entries.map Member.field) entry := by
  induction entries with
  | nil => simp
  | cons first more ih =>
    obtain ⟨apart, distinctLater⟩ := List.nodup_cons.mp distinct
    intro entry member
    rcases List.mem_cons.mp member with rfl | later
    · simp [Known, Member.name]
    · have other : first.name ≠ entry.name := by
        intro same
        rw [same] at apart
        exact apart (List.mem_map_of_mem later)
      have skipped : (first.field.name == entry.name) = false := by simpa [Member.name] using other
      rw [Known, List.map_cons, List.find?_cons_of_neg (by simp [skipped])]
      exact ih distinctLater entry later

theorem reads_required {α : Type} (name text : String) (reader : Reader α) (set : α → δ → δ)
    (value : α)
    (read : ∀ rest, IsDelimited rest → reader (Bytes.ofString text ++ rest) = .ok (value, rest)) :
    Member.Reads ⟨.required name reader set, text, set value⟩ := by
  intro rest delimited
  simp only [Field.required, read rest delimited, bind, Except.bind]
  rfl

theorem reads_defaulted {α : Type} (name text : String) (reader : Reader α) (set : α → δ → δ)
    (value : α)
    (read : ∀ rest, IsDelimited rest → reader (Bytes.ofString text ++ rest) = .ok (value, rest)) :
    Member.Reads ⟨.defaulted name reader set, text, set value⟩ :=
  reads_required name text reader set value read

theorem refined_eq_ok {α β : Type} {reader : Reader α} {convert : α → Option β} {bytes rest : Bytes}
    {value : α} {kept : β} (read : reader bytes = .ok (value, rest))
    (converts : convert value = some kept) : refined reader convert bytes = .ok (kept, rest) := by
  simp only [refined, read, bind, Except.bind, converts]
  rfl

def objectBytes : List (Member δ) → Bytes
  | [] => [123, 125]
  | entry :: more => 123 :: (entry.bytes ++ (laterBytes more ++ [125]))

theorem ofString_intercalate (separator first : String) (texts : List String) :
    Bytes.ofString (separator.intercalate (first :: texts)) =
      Bytes.ofString first ++
        texts.flatMap fun text => Bytes.ofString separator ++ Bytes.ofString text := by
  induction texts generalizing first with
  | nil => simp
  | cons text more ih => simp [Bytes.ofString_append, ih text]

theorem ofString_signs : Bytes.ofString "[" = [91] ∧ Bytes.ofString "]" = [93] ∧
    Bytes.ofString "\x7b" = [123] ∧ Bytes.ofString "\x7d" = [125] ∧ Bytes.ofString "," = [44] ∧
    Bytes.ofString ":" = [58] ∧ Bytes.ofString "" = [] := by
  simp only [Bytes.ofString_eq]
  decide

theorem ofString_object (entries : List (Member δ)) :
    Bytes.ofString (object (entries.map fun entry => (entry.name, entry.text))) =
      objectBytes entries := by
  obtain ⟨-, -, opening, closing, comma, colonSign, empty⟩ := ofString_signs
  rw [object, Bytes.ofString_append, Bytes.ofString_append, opening, closing]
  cases entries with
  | nil => simp [objectBytes, empty]
  | cons entry more =>
    simp only [List.map_cons, List.map_map, ofString_intercalate, Bytes.ofString_append, comma,
      colonSign, objectBytes, laterBytes, Member.bytes, List.flatMap_map, Function.comp_def,
      List.cons_append, List.nil_append, List.append_assoc]

-- What the loop leaves is the closing brace, whether the object has members or not.
theorem members_object (entries : List (Member δ)) (distinct : (entries.map Member.name).Nodup)
    (reads : ∀ entry ∈ entries, entry.Reads) (draft : δ) (rest : Bytes) :
    ∃ body, objectBytes entries ++ rest = 123 :: body ∧
      members (entries.map Member.field) (body.length + 1) true [] draft body =
        .ok (Member.applyAll entries draft, 125 :: rest) := by
  have known := known_of_distinct entries distinct
  cases entries with
  | nil => exact ⟨125 :: rest, rfl, members_end [] _ true [] draft rest⟩
  | cons entry more =>
    obtain ⟨apart, distinctLater⟩ := List.nodup_cons.mp distinct
    -- The first member has no comma before it, so the loop over the later ones starts behind it.
    refine ⟨entry.bytes ++ (laterBytes more ++ 125 :: rest), by simp [objectBytes], ?_⟩
    have step := members_step ((entry :: more).map Member.field)
      (entry.bytes ++ (laterBytes more ++ 125 :: rest)).length true [] draft entry _ _
      (nextEntry_first entry _) (known entry (by simp)) (reads entry (by simp)) (by simp)
      (laterBytes_delimited more rest)
    have short : more.length < (entry.bytes ++ (laterBytes more ++ 125 :: rest)).length := by
      have bound : more.length ≤ (laterBytes more).length := length_le_flatMap more Member.bytes
      simp
      omega
    have freshLater : ∀ other ∈ more, other.name ∉ [entry.name] := by
      intro other member same
      rw [List.mem_singleton] at same
      exact apart (same ▸ List.mem_map_of_mem member)
    have later := members_later ((entry :: more).map Member.field) more
      (fun other member => known other (List.mem_cons_of_mem _ member))
      (fun other member => reads other (List.mem_cons_of_mem _ member)) distinctLater _ short
      [entry.name] freshLater (entry.set draft) rest
    rw [step, later, fillAbsent_complete]
    · rfl
    · intro field member
      obtain ⟨other, listed, rfl⟩ := List.mem_map.mp member
      rcases List.mem_cons.mp listed with rfl | later
      · simp [Member.name]
      · simp only [List.mem_append, List.mem_reverse, List.mem_map]
        exact .inl ⟨other, later, rfl⟩

theorem record_object (entries : List (Member δ)) (distinct : (entries.map Member.name).Nodup)
    (reads : ∀ entry ∈ entries, entry.Reads) (draft : δ) (rest : Bytes) :
    record (entries.map Member.field) draft
        (Bytes.ofString (object (entries.map fun entry => (entry.name, entry.text))) ++ rest) =
      .ok (Member.applyAll entries draft, rest) := by
  obtain ⟨body, shape, read⟩ := members_object entries distinct reads draft rest
  have visible : isBlank 123 = false := by decide
  have closed : close 125 (125 :: rest) = .ok rest := rfl
  rw [ofString_object, shape]
  simp only [record, skipBlank, List.dropWhile_cons, visible, Bool.false_eq_true, if_false, read,
    bind, Except.bind, closed]
  rfl

theorem document_object (entries : List (Member δ)) (distinct : (entries.map Member.name).Nodup)
    (reads : ∀ entry ∈ entries, entry.Reads) (draft : δ) :
    document (record (entries.map Member.field) draft)
        (Bytes.ofString (object (entries.map fun entry => (entry.name, entry.text)))) =
      .ok (Member.applyAll entries draft) := by
  have read := record_object entries distinct reads draft []
  rw [List.append_nil] at read
  simp only [document, read, bind, Except.bind]
  rfl

end Enrolment.Json
