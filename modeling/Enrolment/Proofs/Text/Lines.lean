import Enrolment.Text.Lines
import Mathlib.Data.List.TakeWhile

set_option autoImplicit false

namespace Enrolment

theorem splitAt_eq_splitOn (separator : Char) (chars : List Char) :
    splitAt separator chars = chars.splitOn separator := by
  induction chars with
  | nil => rfl
  | cons char rest ih =>
    rw [splitAt, ih, List.splitOn_cons_eq_if_modifyHead]
    cases parts : rest.splitOn separator with
    | nil => exact absurd parts (List.splitOn_ne_nil separator rest)
    | cons part more => by_cases same : char = separator <;> simp [same]

theorem splitAt_part (separator : Char) (part : List Char) (apart : separator ∉ part) :
    splitAt separator part = [part] := by
  rw [splitAt_eq_splitOn, List.splitOn_eq_singleton apart]

theorem splitAt_join (separator : Char) (front rest : List Char) :
    splitAt separator (front ++ separator :: rest) =
      splitAt separator front ++ splitAt separator rest := by
  simp only [splitAt_eq_splitOn, List.splitOn_append_cons_self]

theorem splitAt_append (separator : Char) (part rest : List Char) (apart : separator ∉ part) :
    splitAt separator (part ++ separator :: rest) = part :: splitAt separator rest := by
  rw [splitAt_eq_splitOn, splitAt_eq_splitOn, List.splitOn_append_cons_self_of_not_mem apart]

theorem separator_not_mem_splitAt (separator : Char) (chars : List Char) :
    ∀ part ∈ splitAt separator chars, separator ∉ part := by
  induction chars with
  | nil => simp [splitAt]
  | cons char rest ih =>
    unfold splitAt
    by_cases same : char = separator
    · simpa [same] using ih
    · cases parts : splitAt separator rest with
      | nil => simp [same, Ne.symm same]
      | cons part more =>
        rw [parts] at ih
        have first := ih part (by simp)
        have others := fun other member => ih other (List.mem_cons_of_mem _ member)
        simpa [same, Ne.symm same, first] using others

theorem intercalate_splitAt (separator : Char) (chars : List Char) :
    [separator].intercalate (splitAt separator chars) = chars := by
  rw [splitAt_eq_splitOn, List.intercalate_splitOn]

theorem mem_or_of_mem_intercalate {separator char : Char} {parts : List (List Char)}
    (member : char ∈ [separator].intercalate parts) :
    char = separator ∨ ∃ part ∈ parts, char ∈ part := by
  induction parts with
  | nil => cases member
  | cons part parts ih =>
    cases parts with
    | nil => exact .inr ⟨part, List.mem_cons_self, by simpa using member⟩
    | cons next parts =>
      rw [List.intercalate_cons_cons, List.mem_append, List.mem_append] at member
      rcases member with (inside | between) | later
      · exact .inr ⟨part, List.mem_cons_self, inside⟩
      · exact .inl (List.mem_singleton.mp between)
      · refine (ih later).imp_right ?_
        rintro ⟨other, known, inside⟩
        exact ⟨other, List.mem_cons_of_mem _ known, inside⟩

theorem mem_intercalate_of_mem {char : Char} {part : List Char} (separator : Char)
    {parts : List (List Char)} (known : part ∈ parts) (inside : char ∈ part) :
    char ∈ [separator].intercalate parts := by
  induction parts with
  | nil => cases known
  | cons first parts ih =>
    cases parts with
    | nil =>
      obtain rfl := List.mem_singleton.mp known
      simpa using inside
    | cons next parts =>
      rw [List.intercalate_cons_cons, List.mem_append, List.mem_append]
      rcases List.mem_cons.mp known with rfl | known
      · exact .inl (.inl inside)
      · exact .inr (ih known)

theorem exists_mem_splitAt {separator char : Char} {chars : List Char} (member : char ∈ chars)
    (apart : char ≠ separator) : ∃ part ∈ splitAt separator chars, char ∈ part := by
  rw [← intercalate_splitAt separator chars] at member
  exact (mem_or_of_mem_intercalate member).resolve_left apart

theorem splitAt_eq_pair_iff {separator : Char} {chars one two : List Char} :
    splitAt separator chars = [one, two] ↔
      separator ∉ one ∧ separator ∉ two ∧ chars = one ++ separator :: two := by
  constructor
  · intro parts
    have apart := separator_not_mem_splitAt separator chars
    have joined := intercalate_splitAt separator chars
    rw [parts] at apart joined
    refine ⟨apart one (by simp), apart two (by simp), ?_⟩
    simpa [List.intercalate] using joined.symm
  · rintro ⟨firstApart, secondApart, rfl⟩
    rw [splitAt_append _ _ _ firstApart, splitAt_part _ _ secondApart]

theorem splitAt_eq_triple_iff {separator : Char} {chars one two three : List Char} :
    splitAt separator chars = [one, two, three] ↔
      separator ∉ one ∧ separator ∉ two ∧ separator ∉ three ∧
        chars = (one ++ separator :: two) ++ separator :: three := by
  constructor
  · intro parts
    have apart := separator_not_mem_splitAt separator chars
    have joined := intercalate_splitAt separator chars
    rw [parts] at apart joined
    refine ⟨apart one (by simp), apart two (by simp), apart three (by simp), ?_⟩
    simpa [List.intercalate] using joined.symm
  · rintro ⟨firstApart, secondApart, thirdApart, rfl⟩
    rw [List.append_assoc, List.cons_append, splitAt_append _ _ _ firstApart,
      splitAt_append _ _ _ secondApart, splitAt_part _ _ thirdApart]

theorem cut_at_last (separator : Char) (chars : List Char) :
    let behind := (chars.reverse.takeWhile (· ≠ separator)).reverse
    separator ∉ behind ∧ (behind = chars ∨ ∃ front, chars = front ++ separator :: behind) := by
  intro behind
  have whole := List.takeWhile_append_dropWhile (p := (· ≠ separator)) (l := chars.reverse)
  have stopped := List.head?_dropWhile_not (· ≠ separator) chars.reverse
  have apart : separator ∉ behind := by
    intro inside
    have known := List.mem_takeWhile_imp (List.mem_reverse.mp inside)
    simp at known
  refine ⟨apart, ?_⟩
  cases before : chars.reverse.dropWhile (· ≠ separator) with
  | nil =>
    left
    rw [before, List.append_nil] at whole
    rw [← List.reverse_inj, List.reverse_reverse]
    exact whole
  | cons last front =>
    right
    rw [before] at stopped whole
    have same : last = separator := by simpa using stopped
    refine ⟨front.reverse, ?_⟩
    rw [← List.reverse_inj, ← whole, same]
    simp [behind]

theorem cutAt_apart {separator : Char} {chars : List Char} (apart : separator ∉ chars) :
    cutAt separator chars = (chars, none) := by
  induction chars with
  | nil => rfl
  | cons char more ih =>
    simp only [List.mem_cons, not_or] at apart
    rw [cutAt, if_neg (Ne.symm apart.1), ih apart.2]

theorem cutAt_fst (separator : Char) (chars : List Char) :
    (cutAt separator chars).1 = chars.takeWhile (· ≠ separator) := by
  induction chars with
  | nil => rfl
  | cons char more ih =>
    by_cases same : char = separator
    · simp [cutAt, same]
    · simp [cutAt, same, ih]

section Trimming

variable {drop : Char → Bool}

section UpTo

variable {lead rest : List Char} (leading : ∀ char ∈ lead, drop char = true)
  (stops : ∀ char ∈ rest.head?, drop char = false)
include leading stops

theorem dropWhile_upTo : (lead ++ rest).dropWhile drop = rest := by
  rw [List.dropWhile_append_of_pos leading]
  cases rest with
  | nil => rfl
  | cons first rest => rw [List.dropWhile_cons_of_neg (Bool.eq_false_iff.mp (stops first rfl))]

theorem takeWhile_upTo : (lead ++ rest).takeWhile drop = lead := by
  rw [List.takeWhile_append_of_pos leading]
  cases rest with
  | nil => simp
  | cons first rest => simp [stops first rfl]

end UpTo

theorem dropWhile_framed {lead : List Char} (leading : ∀ char ∈ lead, drop char = true)
    {first : Char} (kept : drop first = false) (rest : List Char) :
    (lead ++ first :: rest).dropWhile drop = first :: rest :=
  dropWhile_upTo leading (by simpa using kept)

theorem trimChars_framed {lead core tail : List Char} (leading : ∀ char ∈ lead, drop char = true)
    (trailing : ∀ char ∈ tail, drop char = true) {first last : Char}
    (begins : core.head? = some first) (ends : core.getLast? = some last)
    (firstKept : drop first = false) (lastKept : drop last = false) :
    trimChars drop (lead ++ core ++ tail) = core := by
  obtain ⟨more, rfl⟩ := List.head?_eq_some_iff.mp begins
  obtain ⟨init, shape⟩ := List.getLast?_eq_some_iff.mp ends
  have front := dropWhile_framed leading firstKept (more ++ tail)
  have turnedTail : ∀ char ∈ tail.reverse, drop char = true := by simpa using trailing
  have back := dropWhile_framed turnedTail lastKept init.reverse
  have turned : (first :: (more ++ tail)).reverse = tail.reverse ++ last :: init.reverse := by
    rw [← List.cons_append, shape]
    simp
  rw [trimChars, List.append_assoc, List.cons_append, front, turned, back, shape]
  simp

theorem trimChars_all {chars : List Char} (dropped : ∀ char ∈ chars, drop char = true) :
    trimChars drop chars = [] := by
  simp [trimChars, List.dropWhile_eq_nil_iff.mpr dropped]

theorem trimChars_append_dropped (chars : List Char) {char : Char} (dropped : drop char = true) :
    trimChars drop (chars ++ [char]) = trimChars drop chars := by
  rw [trimChars, trimChars, List.dropWhile_append]
  split
  next empty =>
    rw [List.isEmpty_iff.mp empty, List.dropWhile_cons_of_pos dropped]
    rfl
  next => rw [List.reverse_concat, List.dropWhile_cons_of_pos dropped]

theorem exists_trimChars_eq {lead core : List Char} (leading : ∀ char ∈ lead, drop char = true)
    {first last : Char} (begins : core.head? = some first) (ends : core.getLast? = some last)
    (firstKept : drop first = false) (lastKept : drop last = false) (rest : List Char) :
    ∃ more, trimChars drop (lead ++ core ++ rest) = core ++ more := by
  obtain ⟨tail, rfl⟩ := List.head?_eq_some_iff.mp begins
  obtain ⟨init, shape⟩ := List.getLast?_eq_some_iff.mp ends
  have front := dropWhile_framed leading firstKept (tail ++ rest)
  have kept : (first :: tail).reverse.dropWhile drop = (first :: tail).reverse := by
    rw [shape, List.reverse_concat, List.dropWhile_cons_of_neg (by simp [lastKept])]
  refine ⟨(rest.reverse.dropWhile drop).reverse, ?_⟩
  rw [trimChars, List.append_assoc, List.cons_append, front, ← List.cons_append,
    List.reverse_append, List.dropWhile_append]
  split
  next empty =>
    rw [List.isEmpty_iff.mp empty, kept, List.reverse_reverse]
    simp
  next => rw [List.reverse_append, List.reverse_reverse]

theorem trimChars_frame (drop : Char → Bool) (chars : List Char) :
    ∃ lead tail, (∀ char ∈ lead, drop char = true) ∧ (∀ char ∈ tail, drop char = true) ∧
      chars = lead ++ trimChars drop chars ++ tail := by
  refine ⟨chars.takeWhile drop, ((chars.dropWhile drop).reverse.takeWhile drop).reverse,
    fun char => List.mem_takeWhile_imp, fun char member => ?_, ?_⟩
  · exact List.mem_takeWhile_imp (List.mem_reverse.mp member)
  · rw [trimChars, List.append_assoc, ← List.reverse_append, List.takeWhile_append_dropWhile,
      List.reverse_reverse, List.takeWhile_append_dropWhile]

theorem trimChars_eq_iff {chars core : List Char} {char first last : Char}
    (begins : core.head? = some first) (ends : core.getLast? = some last)
    (firstKept : first ≠ char) (lastKept : last ≠ char) :
    trimChars (· = char) chars = core ↔
      ∃ lead tail, chars = List.replicate lead char ++ core ++ List.replicate tail char := by
  constructor
  · rintro rfl
    obtain ⟨lead, tail, leading, trailing, whole⟩ := trimChars_frame (· = char) chars
    have leads : lead = List.replicate lead.length char :=
      List.eq_replicate_of_mem fun other member => of_decide_eq_true (leading other member)
    have trails : tail = List.replicate tail.length char :=
      List.eq_replicate_of_mem fun other member => of_decide_eq_true (trailing other member)
    exact ⟨lead.length, tail.length, by rwa [← leads, ← trails]⟩
  · rintro ⟨lead, tail, rfl⟩
    exact trimChars_framed (by simp) (by simp) begins ends (by simpa using firstKept)
      (by simpa using lastKept)

end Trimming

end Enrolment
