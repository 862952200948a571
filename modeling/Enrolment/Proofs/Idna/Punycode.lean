import Enrolment.Idna.Punycode
import Enrolment.Proofs.Text.Lines

set_option autoImplicit false

namespace Enrolment.Idna

theorem mem_encodePass {char : Char} {code : Nat} {label : List Char} {state : Encoder}
    (member : char ∈ state.output) : char ∈ (encodePass code label state).output := by
  induction label generalizing state with
  | nil => exact member
  | cons next label ih =>
    unfold encodePass
    split
    · exact ih member
    · split
      · exact ih (List.mem_append_left _ member)
      · exact ih member

theorem mem_encodeFrom {char : Char} {label : List Char} {codes : List Nat} {next : Nat}
    {state last : Encoder} (written : encodeFrom label codes next state = some last)
    (member : char ∈ state.output) : char ∈ last.output := by
  induction codes generalizing next state with
  | nil =>
    cases written
    exact member
  | cons code codes ih =>
    unfold encodeFrom at written
    dsimp only at written
    split at written
    · apply ih written
      exact mem_encodePass member
    · cases written

theorem mem_punycode? {char : Char} (ascii : char.toNat < startCode) {label text : List Char}
    (written : punycode? label = some text) (member : char ∈ label) : char ∈ text := by
  obtain ⟨last, encoded, rfl⟩ := Option.map_eq_some_iff.mp written
  have basic : char ∈ label.filter (·.toNat < startCode) :=
    List.mem_filter.mpr ⟨member, decide_eq_true ascii⟩
  apply mem_encodeFrom encoded
  have filled : ¬ (label.filter (·.toNat < startCode)).isEmpty = true := by
    rw [List.isEmpty_iff]
    exact List.ne_nil_of_mem basic
  rw [if_neg filled]
  exact List.mem_append_left _ basic

theorem mem_insertAt {char other : Char} {label : List Char} {position : Nat}
    (member : char ∈ label) : char ∈ insertAt label position other := by
  rw [← List.take_append_drop position label, List.mem_append] at member
  unfold insertAt
  rw [List.mem_append, List.mem_cons]
  exact member.imp_right .inr

theorem decodeNumber_eq_some {input rest : List Char} {start weight place bias value : Nat}
    (read : decodeNumber input start weight place bias = some (value, rest)) :
    ∃ digits, digits ≠ [] ∧ input = digits ++ rest ∧
      ∀ char ∈ digits, (digitValue? char).isSome = true := by
  induction input generalizing start weight place with
  | nil => cases read
  | cons char input ih =>
    unfold decodeNumber at read
    obtain ⟨digit, valued, read⟩ := Option.bind_eq_some_iff.mp read
    have isDigit : (digitValue? char).isSome = true := by rw [valued]; rfl
    dsimp only at read
    split at read
    · cases read
    · split at read
      · cases read
        exact ⟨[char], by simp, rfl, by simpa using isDigit⟩
      · split at read
        · cases read
        · obtain ⟨digits, -, rfl, known⟩ := ih read
          exact ⟨char :: digits, by simp, rfl, by simpa [isDigit] using known⟩

theorem mem_decodeInsertions {char : Char} {fuel position code bias : Nat}
    {input label text : List Char}
    (read : decodeInsertions fuel input position code bias label = some text)
    (member : char ∈ label) : char ∈ text := by
  induction fuel generalizing input position code bias label with
  | zero =>
    cases read
    exact member
  | succ fuel ih =>
    cases input with
    | nil =>
      cases read
      exact member
    | cons first input =>
      unfold decodeInsertions at read
      obtain ⟨⟨value, rest⟩, -, read⟩ := Option.bind_eq_some_iff.mp read
      obtain ⟨inserted, -, read⟩ := Option.bind_eq_some_iff.mp read
      exact ih read (mem_insertAt member)

theorem isDigit_of_decodeInsertions {fuel position code bias : Nat} {input label text : List Char}
    (read : decodeInsertions fuel input position code bias label = some text)
    (enough : input.length < fuel) : ∀ char ∈ input, (digitValue? char).isSome = true := by
  induction fuel generalizing input position code bias label with
  | zero => omega
  | succ fuel ih =>
    cases input with
    | nil => simp
    | cons first input =>
      unfold decodeInsertions at read
      obtain ⟨⟨value, rest⟩, number, read⟩ := Option.bind_eq_some_iff.mp read
      obtain ⟨inserted, -, read⟩ := Option.bind_eq_some_iff.mp read
      obtain ⟨digits, some, whole, known⟩ := decodeNumber_eq_some number
      have shorter : rest.length < fuel := by
        have sizes := congrArg List.length whole
        have positive := List.length_pos_iff.mpr some
        simp only [List.length_append, List.length_cons] at sizes enough
        omega
      rw [whole]
      intro char member
      exact (List.mem_append.mp member).elim (known char) (ih read shorter char)

theorem mem_of_unpunycode? {char : Char} (noDigit : digitValue? char = none) (apart : char ≠ '-')
    {text label : List Char} (read : unpunycode? text = some label) (member : char ∈ text) :
    char ∈ label := by
  have cut := (cut_at_last '-' text).2
  unfold unpunycode? at read
  dsimp only at cut read
  generalize (text.reverse.takeWhile (· ≠ '-')).reverse = behind at cut read
  generalize parted : (if text.length - behind.length = 0 then (([] : List Char), text)
    else if text.length - behind.length = 1 then ([], text)
    else (text.take (text.length - behind.length - 1), behind)) = parts at read
  have either : char ∈ parts.1 ∨ char ∈ parts.2 := by
    rw [← parted]
    split
    · exact .inr member
    split
    · exact .inr member
    next some more =>
    rcases cut with rfl | ⟨basic, rfl⟩
    · omega
    · have size : (basic ++ '-' :: behind).length - behind.length - 1 = basic.length := by
        simp
        omega
      rw [size, List.take_left]
      rw [List.mem_append, List.mem_cons] at member
      exact member.imp_right fun later => later.resolve_left apart
  split at read
  · rcases either with basic | input
    · exact mem_decodeInsertions read basic
    · have isDigit := isDigit_of_decodeInsertions read (Nat.lt_succ_self _) char input
      rw [noDigit] at isDigit
      cases isDigit
  · cases read

end Enrolment.Idna
