import Enrolment.Proofs.Json.Grammar

set_option autoImplicit false

namespace Enrolment.Json

def SpellsValue (text : String) (value : Bytes) : Prop :=
  ∃ contents, value = 34 :: (contents ++ [34]) ∧ SpellsText text contents

theorem text_spelled {value : Bytes} {spelled : String} (spells : SpellsValue spelled value)
    {blanks : Bytes} (isBlanks : IsBlanks blanks) (rest : Bytes) :
    text (blanks ++ (value ++ rest)) = .ok (spelled, rest) := by
  obtain ⟨contents, rfl, spellsContents⟩ := spells
  have read := stringAfterQuote_spells spellsContents rest
  have visible : isBlank 34 = false := by decide
  rw [text, skipBlank_append isBlanks, List.cons_append, skipBlank_visible visible]
  simpa using read

theorem text_other {byte : UInt8} (visible : isBlank byte = false) (other : byte ≠ 34)
    {blanks : Bytes} (isBlanks : IsBlanks blanks) (rest : Bytes) :
    ∃ fault, text (blanks ++ byte :: rest) = .error fault := by
  refine ⟨refuse (byte :: rest), ?_⟩
  simp [text, skipBlank_append isBlanks, skipBlank_visible visible, other]

theorem text_unspelled {value : Bytes} (writes : Writes .value value)
    (spellsNone : ∀ spelled, ¬SpellsValue spelled value) {blanks : Bytes}
    (isBlanks : IsBlanks blanks) (rest : Bytes) :
    ∃ fault, text (blanks ++ (value ++ rest)) = .error fault := by
  cases writes with
  | scalar isScalar =>
    cases isScalar with
    | word listed =>
      simp only [List.mem_cons, List.not_mem_nil, or_false] at listed
      obtain rfl | rfl | rfl := listed <;> exact text_other (by decide) (by decide) isBlanks _
    | number isNumber =>
      obtain ⟨byte, more, rfl, rfl | decimal⟩ := isNumber.eq_cons
      · exact text_other (by decide) (by decide) isBlanks _
      · exact text_other (isBlank_of_isDigit decimal) (ne_of_isDigit decimal (by decide)) isBlanks _
    | @string contents isContents =>
      rcases spells_or_refused isContents with ⟨spelled, spells⟩ | refused
      · exact absurd ⟨contents, rfl, spells⟩ (spellsNone spelled)
      · have visible : isBlank 34 = false := by decide
        rw [text, skipBlank_append isBlanks, List.cons_append, skipBlank_visible visible]
        simpa using refused rest
  | empty bracket => cases bracket <;> exact text_other (by decide) (by decide) isBlanks _
  | bracket bracket => cases bracket <;> exact text_other (by decide) (by decide) isBlanks _

-- A member of an object: its name, which is a text, its value as it is written, and the text that
-- the value spells, if it spells one.
structure Pair where
  name : String
  value : Bytes
  text : Option String
  writes : Writes .value value
  spells : ∀ spelled, text = some spelled ↔ SpellsValue spelled value

theorem SpellsValue.unique {left right : String} {value : Bytes} (spells : SpellsValue left value)
    (spellsToo : SpellsValue right value) : left = right := by
  obtain ⟨contents, rfl, spells⟩ := spells
  obtain ⟨others, same, spellsToo⟩ := spellsToo
  obtain rfl : contents = others := List.append_cancel_right (List.cons.inj same).2
  exact spells.unique spellsToo

theorem exists_pair (name : String) {value : Bytes} (writes : Writes .value value) :
    ∃ pair : Pair, pair.name = name ∧ pair.value = value := by
  by_cases spelt : ∃ spelled, SpellsValue spelled value
  · obtain ⟨spelled, spells⟩ := spelt
    refine ⟨⟨name, value, some spelled, writes, fun other => ?_⟩, rfl, rfl⟩
    exact ⟨fun same => Option.some.inj same ▸ spells, fun spellsOther =>
      congrArg some (spells.unique spellsOther)⟩
  · refine ⟨⟨name, value, none, writes, fun other => ?_⟩, rfl, rfl⟩
    exact ⟨nofun, fun spellsOther => absurd ⟨other, spellsOther⟩ spelt⟩

inductive WritesPair (pair : Pair) : Bytes → Prop
  | spaced {before label gap space after : Bytes} (isBefore : IsBlanks before)
      (isLabel : SpellsText pair.name label) (isGap : IsBlanks gap) (isSpace : IsBlanks space)
      (isAfter : IsBlanks after) :
      WritesPair pair
        (before ++ 34 :: (label ++ 34 :: (gap ++ 58 :: (space ++ (pair.value ++ after)))))

inductive WritesPairs : List Pair → Bytes → Prop
  | last {pair : Pair} {bytes : Bytes} (writes : WritesPair pair bytes) : WritesPairs [pair] bytes
  | more {pair : Pair} {pairs : List Pair} {bytes later : Bytes} (writes : WritesPair pair bytes)
      (writesLater : WritesPairs pairs later) : WritesPairs (pair :: pairs) (bytes ++ 44 :: later)

inductive WritesObject : List Pair → Bytes → Prop
  | empty {lead inside trail : Bytes} (isLead : IsBlanks lead) (isInside : IsBlanks inside)
      (isTrail : IsBlanks trail) : WritesObject [] (lead ++ 123 :: (inside ++ 125 :: trail))
  | pairs {pairs : List Pair} {lead inside trail : Bytes} (isLead : IsBlanks lead)
      (writes : WritesPairs pairs inside) (isTrail : IsBlanks trail) :
      WritesObject pairs (lead ++ 123 :: (inside ++ 125 :: trail))

theorem nextEntry_congr {left right : Bytes} (same : skipBlank left = skipBlank right)
    (closing : UInt8) (first : Bool) :
    nextEntry closing first left = nextEntry closing first right := by
  simp only [nextEntry, same]

theorem nextEntry_comma {bytes : Bytes} (opens : Opens bytes) :
    nextEntry 125 false (44 :: bytes) = nextEntry 125 true bytes := by
  obtain ⟨byte, more, visible, -, goesOn⟩ := opens
  have comma : isBlank 44 = false := by decide
  simp [nextEntry, skipBlank_visible comma, visible, goesOn]

theorem opens_pairs {pairs : List Pair} {inside : Bytes} (writes : WritesPairs pairs inside)
    (rest : Bytes) : Opens (inside ++ rest) := by
  cases writes with
  | last writes | more writes =>
    obtain ⟨isBefore⟩ := writes
    simp only [List.append_assoc]
    exact .after isBefore (opens_visible (by decide) (by decide) _)

def given (pairs : List Pair) (name : String) : List (Option String) :=
  (pairs.filter fun pair => pair.name = name).map Pair.text

def IsSpoilt (pairs : List Pair) (name : String) : Prop :=
  2 ≤ (given pairs name).length ∨ none ∈ given pairs name

def told (pairs : List Pair) (name : String) : String :=
  match given pairs name with
  | some text :: _ => text
  | _ => ""

theorem given_cons (pair : Pair) (pairs : List Pair) (name : String) :
    given (pair :: pairs) name =
      if pair.name = name then pair.text :: given pairs name else given pairs name := by
  unfold given
  split
  next same => simp [same]
  next other => simp [other]

theorem not_isSpoilt_iff (pairs : List Pair) (name : String) :
    ¬IsSpoilt pairs name ↔
      given pairs name = [] ∨ ∃ text, given pairs name = [some text] := by
  unfold IsSpoilt
  match given pairs name with
  | [] => simp
  | [none] => simp
  | [some text] => simp
  | _ :: _ :: _ => simp

section Fields

variable {δ : Type} (settings : List (String × (String → δ → δ)))

def textFields : List (Field δ) :=
  settings.map fun setting => .defaulted setting.1 text setting.2

def settle : List String → δ → List Pair → Option δ
  | _, draft, [] => some draft
  | seen, draft, pair :: pairs =>
    match settings.lookup pair.name with
    | none => settle seen draft pairs
    | some set =>
      if pair.name ∈ seen then none
      else pair.text.bind fun text => settle (pair.name :: seen) (set text draft) pairs

theorem settle_unknown {pair : Pair} (unknown : settings.lookup pair.name = none)
    (seen : List String) (draft : δ) (pairs : List Pair) :
    settle settings seen draft (pair :: pairs) = settle settings seen draft pairs := by
  rw [settle, unknown]

theorem settle_known {pair : Pair} {set : String → δ → δ}
    (found : settings.lookup pair.name = some set) (seen : List String) (draft : δ)
    (pairs : List Pair) :
    settle settings seen draft (pair :: pairs) =
      if pair.name ∈ seen then none
      else pair.text.bind fun text =>
        settle settings (pair.name :: seen) (set text draft) pairs := by
  rw [settle, found]

def IsOpen (seen : List String) (pairs : List Pair) (name : String) : Prop :=
  given pairs name = [] ∨ name ∉ seen ∧ ∃ text, given pairs name = [some text]

theorem isOpen_other {pair : Pair} {name : String} (other : pair.name ≠ name) (seen : List String)
    (pairs : List Pair) :
    (IsOpen seen (pair :: pairs) name ↔ IsOpen seen pairs name) ∧
      (IsOpen (pair.name :: seen) pairs name ↔ IsOpen seen pairs name) := by
  simp [IsOpen, given_cons, other, Ne.symm other]

theorem isOpen_self (pair : Pair) (seen : List String) (pairs : List Pair) :
    IsOpen seen (pair :: pairs) pair.name ↔
      pair.name ∉ seen ∧ (∃ text, pair.text = some text) ∧
        IsOpen (pair.name :: seen) pairs pair.name := by
  simp only [IsOpen, given_cons, if_true, List.mem_cons, true_or, not_true_eq_false, false_and,
    or_false, List.cons_ne_nil, false_or, List.cons.injEq, exists_and_right]

theorem settle_isSome (seen : List String) (draft : δ) (pairs : List Pair) :
    (settle settings seen draft pairs).isSome ↔
      ∀ name, (settings.lookup name).isSome → IsOpen seen pairs name := by
  induction pairs generalizing seen draft with
  | nil => simp [settle, IsOpen, given]
  | cons pair pairs ih =>
    cases found : settings.lookup pair.name with
    | none =>
      rw [settle_unknown settings found, ih]
      refine forall₂_congr fun name known => ?_
      have other : pair.name ≠ name := by
        rintro rfl
        simp [found] at known
      exact (isOpen_other other seen pairs).1.symm
    | some set =>
      have known : (settings.lookup pair.name).isSome := by simp [found]
      rw [settle_known settings found]
      by_cases repeated : pair.name ∈ seen
      · have spoilt : ¬IsOpen seen (pair :: pairs) pair.name := by simp [isOpen_self, repeated]
        simp only [if_pos repeated, Option.isSome_none, Bool.false_eq_true, false_iff]
        exact fun all => spoilt (all pair.name known)
      rw [if_neg repeated]
      cases spelled : pair.text with
      | none =>
        have spoilt : ¬IsOpen seen (pair :: pairs) pair.name := by simp [isOpen_self, spelled]
        simp only [Option.bind_none, Option.isSome_none, Bool.false_eq_true, false_iff]
        exact fun all => spoilt (all pair.name known)
      | some text =>
        rw [Option.bind_some, ih]
        refine forall₂_congr fun name known => ?_
        by_cases same : pair.name = name
        · subst same
          simp [isOpen_self, repeated, spelled]
        · obtain ⟨before, after⟩ := isOpen_other same seen pairs
          rw [before, after]

-- `get` looks at what the field of this name sets, and at nothing else.
theorem settle_get {name : String} {get : δ → String} (known : (settings.lookup name).isSome)
    (sets : ∀ other set, settings.lookup other = some set → ∀ text draft,
      get (set text draft) = if other = name then text else get draft)
    {seen : List String} {draft final : δ} {pairs : List Pair}
    (settled : settle settings seen draft pairs = some final) :
    given pairs name = [some (get final)] ∨ given pairs name = [] ∧ get final = get draft := by
  induction pairs generalizing seen draft with
  | nil =>
    cases settled
    exact .inr ⟨rfl, rfl⟩
  | cons pair pairs ih =>
    cases found : settings.lookup pair.name with
    | none =>
      have other : pair.name ≠ name := by
        rintro rfl
        simp [found] at known
      rw [settle_unknown settings found] at settled
      rw [given_cons, if_neg other]
      exact ih settled
    | some set =>
      rw [settle_known settings found, Option.ite_none_left_eq_some] at settled
      obtain ⟨-, settled⟩ := settled
      obtain ⟨text, spelled, settled⟩ := Option.bind_eq_some_iff.mp settled
      have later := ih settled
      rw [sets pair.name set found] at later
      rw [given_cons]
      split at later
      next same =>
        subst same
        -- The name is seen now, so no later member gives it.
        have isOpen := (settle_isSome settings (pair.name :: seen) (set text draft) pairs).mp
          (by rw [settled]; rfl) pair.name known
        have last : given pairs pair.name = [] := by simpa [IsOpen] using isOpen
        simpa [last, spelled, eq_comm] using later
      next other =>
        rw [if_neg other]
        exact later

theorem find?_textFields (name : String) :
    (textFields settings).find? (fun field => field.name == name) =
      (settings.lookup name).map fun set => .defaulted name text set := by
  induction settings with
  | nil => rfl
  | cons setting settings ih =>
    obtain ⟨known, set⟩ := setting
    rw [textFields, List.map_cons]
    by_cases same : name = known
    · subst same
      simp [Field.defaulted, Field.required]
    · have other : (name == known) = false := by simpa using same
      have skipped : (known == name) = false := by simpa using Ne.symm same
      simp only [List.find?_cons, Field.defaulted, Field.required, skipped, List.lookup_cons, other]
      exact ih

theorem read_defaulted (name : String) (set : String → δ → δ) (bytes : Bytes) :
    (Field.defaulted name text set).read bytes =
      (text bytes).map fun (spelled, rest) => (set spelled, rest) := by
  simp only [Field.defaulted, Field.required, bind, Except.bind]
  cases text bytes <;> rfl

theorem fillAbsent_textFields (seen : List String) (draft : δ) :
    fillAbsent seen (textFields settings) draft = .ok draft := by
  induction settings with
  | nil => rfl
  | cons setting settings ih =>
    rw [textFields, List.map_cons, fillAbsent]
    split
    next => exact ih
    next => exact ih

inductive Closes (rest : Bytes) : Option δ → Except Fault (δ × Bytes) → Prop
  | done {final : δ} {left : Bytes} (closed : close 125 left = .ok rest) :
      Closes rest (some final) (.ok (final, left))
  | refused (fault : Fault) : Closes rest none (.error fault)

variable (fuel : Nat) (first : Bool) (seen : List String) (draft : δ) {bytes rest : Bytes}

theorem closes_end (same : skipBlank bytes = 125 :: rest) :
    Closes rest (some draft) (members (textFields settings) (fuel + 1) first seen draft bytes) := by
  have visible : isBlank 125 = false := by decide
  have ended : nextEntry 125 first bytes = .ok none := by simp [nextEntry, same]
  have read : members (textFields settings) (fuel + 1) first seen draft bytes =
      .ok (draft, bytes) := by
    simp only [members, ended, bind, Except.bind, fillAbsent_textFields]
    rfl
  rw [read]
  exact .done (by simp [close, same])

-- Members are read from the front, so what one of them does to the draft is done before the rest.
theorem closes_pair {pair : Pair} {pairs : List Pair} {member tail : Bytes}
    (writes : WritesPair pair member) (ends : EndsNumber tail)
    (next : nextEntry 125 first bytes = nextEntry 125 true (member ++ tail))
    (later : ∀ seen draft left, skipBlank left = skipBlank tail →
      Closes rest (settle settings seen draft pairs)
        (members (textFields settings) fuel false seen draft left)) :
    Closes rest (settle settings seen draft (pair :: pairs))
      (members (textFields settings) (fuel + 1) first seen draft bytes) := by
  obtain @⟨before, label, gap, space, after, isBefore, isLabel, isGap, isSpace, isAfter⟩ := writes
  have quote : isBlank 34 = false := by decide
  have sign : isBlank 58 = false := by decide
  have entered : nextEntry 125 first bytes = .ok (some
      (34 :: (label ++ 34 :: (gap ++ 58 :: (space ++ (pair.value ++ (after ++ tail))))))) := by
    rw [next]
    simp [nextEntry, skipBlank_append isBefore, skipBlank_visible quote]
  have named (rest : Bytes) := stringAfterQuote_spells isLabel rest
  have colonRead (rest : Bytes) : colon (gap ++ 58 :: rest) = .ok rest := by
    simp [colon, skipBlank_append isGap, skipBlank_visible sign]
  rw [members, entered]
  simp only [bind, Except.bind, memberName, named, find?_textFields]
  rw [settle]
  cases found : settings.lookup pair.name with
  | none =>
    have skipped := skipValue_value pair.writes isSpace (ends.after isAfter)
    simp only [Option.map_none, colonRead, skipped]
    exact later seen draft _ (skipBlank_append isAfter tail)
  | some set =>
    simp only [Option.map_some, colonRead, read_defaulted]
    by_cases repeated : pair.name ∈ seen
    · rw [if_pos repeated, if_pos (by simpa using repeated)]
      exact .refused .mismatched
    rw [if_neg repeated, if_neg (by simpa using repeated)]
    cases spelled : pair.text with
    | none =>
      have spellsNone (text : String) : ¬SpellsValue text pair.value := by
        simp [← pair.spells, spelled]
      obtain ⟨fault, refused⟩ := text_unspelled pair.writes spellsNone isSpace (after ++ tail)
      rw [refused]
      exact .refused fault
    | some text =>
      have read := text_spelled ((pair.spells text).mp spelled) isSpace (after ++ tail)
      rw [read]
      exact later _ _ _ (skipBlank_append isAfter tail)

theorem closes_pairs {pairs : List Pair} {inside : Bytes} (writes : WritesPairs pairs inside)
    (enough : pairs.length < fuel)
    (next : nextEntry 125 first bytes = nextEntry 125 true (inside ++ 125 :: rest)) :
    Closes rest (settle settings seen draft pairs)
      (members (textFields settings) fuel first seen draft bytes) := by
  have visible : isBlank 125 = false := by decide
  induction writes generalizing fuel first seen draft bytes with
  | last writes =>
    obtain ⟨left, rfl⟩ : ∃ left, fuel = left + 1 + 1 := ⟨fuel - 2, by simp at enough; omega⟩
    refine closes_pair settings (left + 1) first seen draft writes (endsNumber_closing .object rest)
      next fun seen draft bytes same => ?_
    exact closes_end settings left false seen draft (same.trans (skipBlank_visible visible rest))
  | more writes writesLater ih =>
    obtain ⟨left, rfl⟩ : ∃ left, fuel = left + 1 := ⟨fuel - 1, by simp at enough; omega⟩
    rw [List.append_assoc, List.cons_append] at next
    refine closes_pair settings left first seen draft writes (endsNumber_comma _) next
      fun seen draft bytes same => ?_
    refine ih left false seen draft (by simpa using enough) ?_
    rw [nextEntry_congr same, nextEntry_comma (opens_pairs writesLater _)]

theorem length_pairs {pairs : List Pair} {inside : Bytes} (writes : WritesPairs pairs inside) :
    pairs.length ≤ inside.length := by
  induction writes with
  | last writes =>
    obtain ⟨_⟩ := writes
    simp
    omega
  | more writes writesLater ih =>
    simp
    omega

theorem record_pairs {pairs : List Pair} {object : Bytes} (writes : WritesObject pairs object)
    (behind : Bytes) :
    match settle settings [] draft pairs with
    | some final => ∃ trail, IsBlanks trail ∧
        record (textFields settings) draft (object ++ behind) = .ok (final, trail ++ behind)
    | none => ∃ fault, record (textFields settings) draft (object ++ behind) = .error fault := by
  have visible : isBlank 123 = false := by decide
  -- With or without members, the loop stops at the closing brace.
  obtain ⟨lead, inside, trail, isLead, isTrail, rfl, closes⟩ : ∃ lead inside trail,
      IsBlanks lead ∧ IsBlanks trail ∧ object = lead ++ 123 :: (inside ++ 125 :: trail) ∧
      Closes (trail ++ behind) (settle settings [] draft pairs)
        (members (textFields settings) ((inside ++ 125 :: (trail ++ behind)).length + 1) true []
          draft (inside ++ 125 :: (trail ++ behind))) := by
    cases writes with
    | empty isLead isInside isTrail =>
      refine ⟨_, _, _, isLead, isTrail, rfl, closes_end settings _ true [] draft ?_⟩
      rw [skipBlank_append isInside]
      exact skipBlank_visible (by decide) _
    | pairs isLead writes isTrail =>
      refine ⟨_, _, _, isLead, isTrail, rfl, closes_pairs settings _ true [] draft writes ?_ rfl⟩
      have short := length_pairs writes
      rw [List.length_append]
      omega
  have shape : lead ++ 123 :: (inside ++ 125 :: trail) ++ behind =
      lead ++ 123 :: (inside ++ 125 :: (trail ++ behind)) := by simp
  rw [shape, record, skipBlank_append isLead, skipBlank_visible visible]
  simp only [bind, Except.bind]
  generalize settle settings [] draft pairs = settled at closes ⊢
  generalize members (textFields settings) _ true [] draft _ = read at closes ⊢
  cases closes with
  | done closed =>
    refine ⟨trail, isTrail, ?_⟩
    simp only [closed]
    rfl
  | refused fault => exact ⟨fault, rfl⟩

theorem document_pairs {pairs : List Pair} {object : Bytes} (writes : WritesObject pairs object) :
    match settle settings [] draft pairs with
    | some final => document (record (textFields settings) draft) object = .ok final
    | none => ∃ fault, document (record (textFields settings) draft) object = .error fault := by
  have read := record_pairs settings draft writes []
  rw [List.append_nil] at read
  split at read
  next final =>
    obtain ⟨trail, isTrail, read⟩ := read
    have ended : skipBlank (trail ++ []) = [] := skipBlank_append isTrail []
    simp only [document, read, bind, Except.bind, ended]
    rfl
  next =>
    obtain ⟨fault, refused⟩ := read
    refine ⟨fault, ?_⟩
    simp only [document, refused, bind, Except.bind]

end Fields

end Enrolment.Json
