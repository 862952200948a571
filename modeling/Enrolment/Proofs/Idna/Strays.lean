import Enrolment.Idna.Domain
import Enrolment.Proofs.Idna.Punycode
import Enrolment.Proofs.Idna.Tables
import Enrolment.Proofs.Text.Lines
import Mathlib.Data.List.Basic

set_option autoImplicit false

namespace Enrolment

def isControl (char : Char) : Bool :=
  char.toNat < 32 || (127 ≤ char.toNat && char.toNat < 160)

-- What separates or garbles addresses in a mail header.
def isStray (char : Char) : Bool := isWhiteSpace char || isControl char || char = ','

namespace Idna

def IsBareStray (code : Nat) : Prop := code ≤ 32 ∨ code = 44 ∨ code = 127

theorem IsBareStray.ascii {code : Nat} (bare : IsBareStray code) : code < 128 := by
  unfold IsBareStray at bare
  omega

theorem IsBareStray.isStray {char : Char} (bare : IsBareStray char.toNat) :
    isStray char = true := by
  have comma : char = ',' ↔ char.toNat = 44 := (Char.toNat_inj (d := ',')).symm
  simp [Enrolment.isStray, isWhiteSpace, isControl, comma]
  unfold IsBareStray at bare
  omega

theorem isBareStray_or_mem {char : Char} (stray : isStray char = true) :
    IsBareStray char.toNat ∨
      ∃ range ∈ strayRanges, range.1 ≤ char.toNat ∧ char.toNat ≤ range.2 := by
  have comma : char = ',' ↔ char.toNat = 44 := (Char.toNat_inj (d := ',')).symm
  simp [isStray, isWhiteSpace, isControl, comma] at stray
  simp [IsBareStray, strayRanges]
  omega

theorem foreign_of_mem_strayRanges : ∀ range ∈ strayRanges, 128 ≤ range.1 := by decide

theorem sparesStrays_eq_false {code first last : Nat} {range : Nat × Nat}
    (member : range ∈ strayRanges) (within : range.1 ≤ code ∧ code ≤ range.2)
    (covered : first ≤ code ∧ code ≤ last) : sparesStrays first last = false := by
  simp only [sparesStrays, List.all_eq_false]
  refine ⟨range, member, ?_⟩
  simp
  omega

theorem value?_of_isBlankRow {row : CodeRow} (blank : isBlankRow row = true) {code : Nat}
    (covered : row.first ≤ code ∧ code ≤ row.last) :
    CodeTable.CodeRow.value? row code = some [0x20] := by
  simp only [isBlankRow, Bool.and_eq_true, Bool.or_eq_true, decide_eq_true_eq] at blank
  obtain ⟨target, constant | single⟩ := blank
  · simp only [CodeTable.CodeRow.value?, constant, target]
  · have distance : code - row.first = 0 := by omega
    cases step : row.step <;> simp [CodeTable.CodeRow.value?, step, distance, target]

theorem contains_eq_false {set : CodeRanges}
    (spared : ∀ range ∈ set.bounds, sparesStrays range.1 range.2 = true) {code : Nat}
    {range : Nat × Nat} (member : range ∈ strayRanges)
    (within : range.1 ≤ code ∧ code ≤ range.2) : set.contains code = false := by
  by_contra found
  obtain ⟨other, known, covered⟩ := CodeRanges.exists_of_contains (eq_true_of_ne_false found)
  have spares := spared other known
  rw [sparesStrays_eq_false member within covered] at spares
  cases spares

theorem lookup_replacements {code : Nat} {range : Nat × Nat} (member : range ∈ strayRanges)
    (within : range.1 ≤ code ∧ code ≤ range.2) {value : List Nat}
    (found : replacements.get.lookup code = some value) : value = [0x20] := by
  obtain ⟨row, known, lower, upper, valued⟩ := CodeTable.exists_of_lookup found
  have either := spares_or_blank_replacements row known
  rw [sparesStrays_eq_false member within ⟨lower, upper⟩, Bool.false_or] at either
  rw [value?_of_isBlankRow either ⟨lower, upper⟩] at valued
  exact (Option.some.inj valued).symm

theorem asciiLower_bare {char : Char} (bare : IsBareStray char.toNat) : asciiLower char = char := by
  have small : ¬ (65 ≤ char.toNat ∧ char.toNat ≤ 90) := by
    unfold IsBareStray at bare
    omega
  simp [asciiLower, small]

theorem exists_mem_of_mapChar {char : Char} (stray : isStray char = true) {image : List Char}
    (mapped : mapChar char = some image) : ∃ bare ∈ image, IsBareStray bare.toNat := by
  unfold mapChar at mapped
  dsimp only at mapped
  rcases isBareStray_or_mem stray with bare | ⟨range, member, within⟩
  · rw [if_pos bare.ascii, asciiLower_bare bare] at mapped
    cases mapped
    exact ⟨char, List.mem_singleton_self char, bare⟩
  · have foreign : ¬ char.toNat < 128 := by
      have := foreign_of_mem_strayRanges range member
      omega
    rw [if_neg foreign, contains_eq_false sparesStrays_kept member within,
      contains_eq_false sparesStrays_dropped member within] at mapped
    obtain ⟨value, found, rfl⟩ := Option.map_eq_some_iff.mp mapped
    rw [lookup_replacements member within found]
    exact ⟨' ', by decide, .inl (by decide)⟩

theorem not_mem_target {row : CodeRow} (member : row ∈ decompositions.get.rows) {code : Nat}
    (bare : IsBareStray code) : code ∉ row.target := by
  intro inside
  have apart := standsApart_decompositions row member
  simp only [standsApart, Bool.and_eq_true, List.all_eq_true, decide_eq_true_eq] at apart
  have := apart.2 code inside
  unfold IsBareStray at bare
  omega

theorem decompose_bare {code : Nat} (bare : IsBareStray code) (depth : Nat) :
    decompose depth code = [code] := by
  cases depth with
  | zero => rfl
  | succ depth =>
    have ascii := bare.ascii
    have single : isSyllable code = false := by
      have low : ¬ syllableStart ≤ code := by
        unfold syllableStart
        omega
      simp [isSyllable, low]
    have absent : decompositions.get.lookup code = none := by
      by_contra present
      obtain ⟨value, found⟩ := Option.ne_none_iff_exists'.mp present
      obtain ⟨row, known, lower, -⟩ := CodeTable.exists_of_lookup found
      have apart := standsApart_decompositions row known
      simp only [standsApart, Bool.and_eq_true, decide_eq_true_eq] at apart
      omega
    simp [decompose, single, absent]

theorem combiningClass_bare {code : Nat} (bare : IsBareStray code) : combiningClass code = 0 := by
  have ascii := bare.ascii
  have low : code < 0x300 := by omega
  rw [combiningClass, if_pos low]

theorem composePair?_bare {first second : Nat} (bare : IsBareStray first ∨ IsBareStray second) :
    composePair? first second = none := by
  have syllable : composeSyllable? first second = none := by
    have ascii := bare.imp IsBareStray.ascii IsBareStray.ascii
    unfold composeSyllable? isSyllable syllableStart leadStart vowelStart trailStart
    split
    next jamo =>
      simp only [Bool.and_eq_true, decide_eq_true_eq] at jamo
      omega
    split
    next closed =>
      simp only [Bool.and_eq_true, decide_eq_true_eq] at closed
      omega
    rfl
  rw [composePair?, syllable, Option.orElse_none, Option.map_eq_none_iff, Array.find?_eq_none]
  intro row member
  have apart (code : Nat) (bare : IsBareStray code) := not_mem_target member bare
  rcases bare with bare | bare
  all_goals
    have := apart _ bare
    simp
    intro target
    simp [target] at this

theorem mem_insertMark {item mark : Nat × Nat} {ordered : List (Nat × Nat)}
    (member : item ∈ ordered) : item ∈ insertMark mark ordered := by
  induction ordered with
  | nil => cases member
  | cons last before ih =>
    unfold insertMark
    split
    · rcases List.mem_cons.mp member with rfl | member
      · exact List.mem_cons_self
      · exact List.mem_cons_of_mem _ (ih member)
    · exact List.mem_cons_of_mem _ member

theorem mem_orderMarks {code : Nat} (bare : IsBareStray code) {codes : List Nat}
    (member : code ∈ codes) : (code, 0) ∈ orderMarks codes := by
  unfold orderMarks
  rw [List.mem_reverse]
  suffices grown : ∀ ordered : List (Nat × Nat), (code, 0) ∈ ordered ∨ code ∈ codes →
      (code, 0) ∈ codes.foldl (fun ordered code =>
        let kind := combiningClass code
        if kind = 0 then (code, 0) :: ordered else insertMark (code, kind) ordered) ordered from
    grown [] (.inr member)
  clear member
  induction codes with
  | nil => simp
  | cons next codes ih =>
    intro ordered somewhere
    apply ih
    dsimp only
    rcases somewhere with earlier | here
    · left
      split
      · exact List.mem_cons_of_mem _ earlier
      · exact mem_insertMark earlier
    · rcases List.mem_cons.mp here with rfl | later
      · left
        rw [if_pos (combiningClass_bare bare)]
        exact List.mem_cons_self
      · exact .inr later

def Composer.Holds (composer : Composer) (code : Nat) : Prop :=
  code ∈ composer.done ∨ composer.starter = some code

theorem Composer.mem_flush {composer : Composer} {code : Nat} (holds : composer.Holds code) :
    code ∈ composer.flush := by
  unfold flush
  rcases holds with done | starter
  · simp [done]
  · simp [starter]

theorem Composer.holds_add {composer : Composer} {code : Nat} (bare : IsBareStray code)
    (item : Nat × Nat) (holds : composer.Holds code ∨ item = (code, 0)) :
    (composer.add item).Holds code := by
  rcases item with ⟨next, kind⟩
  unfold add
  dsimp only
  split
  next whole joined =>
    -- Something has been joined, so neither its starter nor the item was the stray.
    split at joined
    next starter started =>
      split at joined
      next => 
        have parted : starter ≠ code ∧ next ≠ code := by
          constructor <;> rintro rfl
          · rw [composePair?_bare (.inl bare)] at joined
            cases joined
          · rw [composePair?_bare (.inr bare)] at joined
            cases joined
        rcases holds with (done | same) | same
        · exact .inl done
        · rw [started] at same
          exact absurd (Option.some.inj same) parted.1
        · cases same
          exact absurd rfl parted.2
      next => cases joined
    next => cases joined
  next =>
    split
    next starts =>
      rcases holds with holds | same
      · exact .inl (mem_flush holds)
      · cases same
        exact .inr rfl
    next marks =>
      rcases holds with holds | same
      · exact holds
      · cases same
        exact absurd rfl marks

theorem Composer.holds_foldl {code : Nat} (bare : IsBareStray code) (items : List (Nat × Nat))
    (composer : Composer) (somewhere : composer.Holds code ∨ (code, 0) ∈ items) :
    (items.foldl Composer.add composer).Holds code := by
  induction items generalizing composer with
  | nil => simpa using somewhere
  | cons item items ih =>
    apply ih
    rcases somewhere with holds | here
    · exact .inl (holds_add bare item (.inl holds))
    · rcases List.mem_cons.mp here with same | later
      · exact .inl (holds_add bare item (.inr same.symm))
      · exact .inr later

theorem mem_compose {char : Char} (bare : IsBareStray char.toNat) {text : List Char}
    (member : char ∈ text) : char ∈ compose text := by
  have decomposed : char.toNat ∈ text.flatMap fun char => decompose 8 char.toNat :=
    List.mem_flatMap.mpr ⟨char, member, by simp [decompose_bare bare]⟩
  have held := Composer.holds_foldl bare _ {} (.inr (mem_orderMarks bare decomposed))
  have kept := List.mem_map_of_mem (f := Char.ofNat)
    (List.mem_reverse.mpr (Composer.mem_flush held))
  rwa [Char.ofNat_toNat] at kept

theorem exists_mem_mapDomain {domain : List Char} (allowed : (mapDomain domain).2 = true)
    {char : Char} (stray : isStray char = true) (member : char ∈ domain) :
    ∃ bare ∈ (mapDomain domain).1, IsBareStray bare.toNat := by
  have mapped := List.all_eq_true.mp allowed (mapChar char) (List.mem_map_of_mem member)
  obtain ⟨image, mapped⟩ := Option.isSome_iff_exists.mp mapped
  obtain ⟨bare, inside, isBare⟩ := exists_mem_of_mapChar stray mapped
  refine ⟨bare, mem_compose isBare (List.mem_flatMap.mpr ⟨(char, mapChar char), ?_, ?_⟩), isBare⟩
  · rw [← List.map_prod_left_eq_zip]
    exact List.mem_map_of_mem member
  · simpa [mapped] using inside

theorem mem_readLabel {char : Char} (bare : IsBareStray char.toNat) {label : List Char}
    (valid : (readLabel label).valid = true) (member : char ∈ label) :
    char ∈ (readLabel label).text := by
  have apart (other : Char) (known : other ∈ punycodeMark) : char ≠ other := by
    rintro rfl
    have : ∀ other ∈ punycodeMark, other.toNat = 45 ∨ 100 ≤ other.toNat ∧ other.toNat < 127 :=
      List.forall_iff_forall_mem.mp (by decide)
    have := this char known
    unfold IsBareStray at bare
    omega
  have noDigit : digitValue? char = none := by
    unfold IsBareStray at bare
    have small : ¬ (48 ≤ char.toNat ∧ char.toNat ≤ 57) := by omega
    have noLetter : isAsciiLetter char = false := by
      simp [isAsciiLetter, asciiLower_bare bare]
      omega
    simp [digitValue?, small, noLetter]
  unfold readLabel at valid ⊢
  by_cases marked : label.take 4 = punycodeMark
  · rw [if_pos marked] at valid ⊢
    cases read : unpunycode? (label.drop 4) with
    | none =>
      rw [read] at valid
      cases valid
    | some text =>
      rw [← List.take_append_drop 4 label, marked, List.mem_append] at member
      have behind := member.resolve_left fun known => apart char known rfl
      exact mem_of_unpunycode? noDigit (apart '-' (by decide)) read behind
  · rw [if_neg marked]
    exact member

theorem mem_writeLabel {char : Char} (bare : IsBareStray char.toNat) {label text : List Char}
    (written : writeLabel label = some text) (member : char ∈ label) : char ∈ text := by
  unfold writeLabel at written
  split at written
  · cases written
    exact member
  · obtain ⟨encoded, punycode, rfl⟩ := Option.map_eq_some_iff.mp written
    exact List.mem_append_right _ (mem_punycode? bare.ascii punycode member)

theorem exists_mem_of_mapM {α β : Type} {f : α → Option β} {items : List α} {images : List β}
    (mapped : items.mapM f = some images) {item : α} (member : item ∈ items) :
    ∃ image ∈ images, f item = some image := by
  induction items generalizing images with
  | nil => cases member
  | cons first items ih =>
    rw [List.mapM_cons] at mapped
    obtain ⟨image, here, mapped⟩ := Option.bind_eq_some_iff.mp mapped
    obtain ⟨others, later, same⟩ := Option.bind_eq_some_iff.mp mapped
    cases same
    rcases List.mem_cons.mp member with rfl | member
    · exact ⟨image, List.mem_cons_self, here⟩
    · obtain ⟨other, known, reached⟩ := ih later member
      exact ⟨other, List.mem_cons_of_mem _ known, reached⟩

theorem not_isStray_of_isPlain {domain : List Char} (plain : isPlain domain = true) {char : Char}
    (member : char ∈ domain) : isStray char = false := by
  rw [isPlain, Bool.and_eq_true, List.all_eq_true] at plain
  have known := plain.2 char member
  have dot : char = '.' ↔ char.toNat = 46 := (Char.toNat_inj (d := '.')).symm
  simp only [isAsciiDigit, dot, Bool.or_eq_true, Bool.and_eq_true, decide_eq_true_eq] at known
  by_contra stray
  rcases isBareStray_or_mem (eq_true_of_ne_false stray) with bare | ⟨range, far, within⟩
  · unfold IsBareStray at bare
    omega
  · have := foreign_of_mem_strayRanges range far
    omega

theorem exists_mem_toAscii? {domain ascii : List Char} (written : toAscii? domain = some ascii)
    {char : Char} (stray : isStray char = true) (member : char ∈ domain) :
    ∃ bare ∈ ascii, IsBareStray bare.toNat := by
  unfold toAscii? at written
  split at written
  next plain =>
    rw [not_isStray_of_isPlain plain member] at stray
    cases stray
  next =>
    dsimp only at written
    split at written
    next valid =>
      rw [Bool.and_eq_true, List.all_eq_true] at valid
      obtain ⟨allowed, valid⟩ := valid
      obtain ⟨bare, mapped, isBare⟩ := exists_mem_mapDomain allowed stray member
      have apart : bare ≠ '.' := by
        rintro rfl
        exact absurd isBare (by unfold IsBareStray; decide)
      obtain ⟨label, part, inside⟩ := exists_mem_splitAt mapped apart
      have read := List.mem_map_of_mem (f := readLabel) part
      have labelValid := valid _ read
      rw [Bool.and_eq_true] at labelValid
      have kept := mem_readLabel isBare labelValid.1 inside
      obtain ⟨texts, each, rfl⟩ := Option.map_eq_some_iff.mp written
      obtain ⟨text, known, reached⟩ := exists_mem_of_mapM each read
      exact ⟨bare, mem_intercalate_of_mem '.' known (mem_writeLabel isBare reached kept), isBare⟩
    next => cases written

end Idna

end Enrolment
