import Enrolment.Email.Mailbox
import Enrolment.Proofs.Idna.Strays
import Mathlib.Data.List.Basic

set_option autoImplicit false

namespace Enrolment.Mailbox

def EndsInLiteral (chars : List Char) : Prop :=
  ∃ front literal, chars = front ++ '[' :: (literal ++ [']']) ∧
    (IpAddress.parse? literal).isSome = true

def IsBracketed (domain : List Char) : Prop :=
  EndsInLiteral domain ∨ ∃ ascii, Idna.toAscii? domain = some ascii ∧ EndsInLiteral ascii

structure Consists (email : String) (localPart domain : List Char) : Prop where
  whole : email.toList = localPart ++ '@' :: domain
  single : email.toList.count '@' = 1
  filled : localPart ≠ [] ∧ domain ≠ []
  localPart : ∀ char ∈ localPart, isStray char = false
  domain (free : ¬ IsBracketed domain) : ∀ char ∈ domain, isStray char = false

def IsContact (email : String) : Prop := ∃ localPart domain, Consists email localPart domain

theorem code_of_isAlphanumeric {char : Char} (known : isAlphanumeric char = true) :
    (48 ≤ char.toNat ∧ char.toNat ≤ 57) ∨ (65 ≤ char.toNat ∧ char.toNat ≤ 90) ∨
      (97 ≤ char.toNat ∧ char.toNat ≤ 122) ∨ char.toNat = 0x17F ∨ char.toNat = 0x212A := by
  simp only [isAlphanumeric, isLetter, isAsciiDigit, isAsciiLetter, Bool.or_eq_true,
    Bool.and_eq_true, decide_eq_true_eq] at known
  rcases known with ((letter | long) | kelvin) | digit
  · unfold asciiLower at letter
    split at letter
    next large =>
      simp only [Bool.and_eq_true, decide_eq_true_eq] at large
      omega
    next => omega
  all_goals omega

theorem isStray_of_isAlphanumeric {char : Char} (known : isAlphanumeric char = true) :
    isStray char = false := by
  have code := code_of_isAlphanumeric known
  by_contra stray
  rcases Idna.isBareStray_or_mem (eq_true_of_ne_false stray) with bare | ⟨range, far, within⟩
  · unfold Idna.IsBareStray at bare
    omega
  · revert range
    simp [Idna.strayRanges]
    omega

theorem isLocalChar_apart {char : Char} (known : isLocalChar char = true) :
    isStray char = false ∧ char ≠ '@' := by
  rcases Bool.or_eq_true _ _ |>.mp known with known | sign
  · refine ⟨isStray_of_isAlphanumeric known, ?_⟩
    rintro rfl
    exact absurd known (by decide)
  · have signs : ∀ char ∈ localSigns, isStray char = false ∧ char ≠ '@' :=
      List.forall_iff_forall_mem.mp (by decide +kernel)
    exact signs char (List.contains_iff_mem.mp sign)

theorem isStray_of_isHostName {chars : List Char} (host : isHostName chars = true) :
    ∀ char ∈ chars, isStray char = false := by
  intro char member
  by_cases dot : char = '.'
  · rw [dot]
    decide
  obtain ⟨label, part, inside⟩ := exists_mem_splitAt member dot
  have isLabel := List.all_eq_true.mp host label part
  simp only [Mailbox.isLabel, Bool.and_eq_true, List.all_eq_true, Bool.or_eq_true,
    decide_eq_true_eq] at isLabel
  rcases isLabel.1.1.2 char inside with known | rfl
  · exact isStray_of_isAlphanumeric known
  · decide

theorem endsInLiteral_of_endingLiteral? {chars literal : List Char}
    (ending : endingLiteral? chars = some literal)
    (address : (IpAddress.parse? literal).isSome = true) : EndsInLiteral chars := by
  induction chars with
  | nil => cases ending
  | cons char rest ih =>
    unfold endingLiteral? at ending
    split at ending
    next bracket =>
      cases ending
      simp only [Bool.and_eq_true, decide_eq_true_eq] at bracket
      obtain ⟨⟨⟨rfl, -⟩, -⟩, last⟩ := bracket
      exact ⟨[], rest.dropLast, by rw [List.dropLast_append_getLast? _ last]; rfl, address⟩
    next =>
      obtain ⟨front, literal, rfl, address⟩ := ih ending
      exact ⟨char :: front, literal, rfl, address⟩

theorem isDomain_cases {chars : List Char} (valid : isDomain chars = true) :
    isHostName chars = true ∨ EndsInLiteral chars := by
  rw [isDomain, Bool.or_eq_true] at valid
  refine valid.imp_right fun literal => ?_
  split at literal
  next literal' ending => exact endsInLiteral_of_endingLiteral? ending literal
  next => cases literal

theorem parts?_eq_some {chars localPart domain : List Char}
    (parts : parts? chars = some (localPart, domain)) :
    chars = localPart ++ '@' :: domain ∧ '@' ∉ domain := by
  obtain ⟨apart, cut⟩ := cut_at_last '@' chars
  unfold parts? at parts
  split at parts
  next present =>
    dsimp only at parts cut
    generalize (chars.reverse.takeWhile (· ≠ '@')).reverse = behind at apart cut parts
    rcases cut with rfl | ⟨front, rfl⟩
    · exact absurd (List.contains_iff_mem.mp present) apart
    · have size : (front ++ '@' :: behind).length - behind.length - 1 = front.length := by
        simp
        omega
      rw [size, List.take_left] at parts
      cases parts
      exact ⟨rfl, apart⟩
  next => cases parts

theorem isContact_of_isValid {email : String} (valid : isValid email = true) :
    IsContact email := by
  unfold isValid at valid
  split at valid
  · cases valid
  next localPart domain parts =>
  obtain ⟨whole, apart⟩ := parts?_eq_some parts
  simp only [Bool.and_eq_true, isLocalPart, List.all_eq_true, Bool.not_eq_true',
    List.isEmpty_eq_false_iff] at valid
  obtain ⟨⟨-, filled, localChars⟩, valid⟩ := valid
  have clean := fun char member => isLocalChar_apart (localChars char member)
  have passes : isDomain domain = true ∨
      ∃ ascii, Idna.toAscii? domain = some ascii ∧ isDomain ascii = true := by
    rcases Bool.or_eq_true _ _ |>.mp valid with direct | mapped
    · exact .inl direct
    · split at mapped
      next ascii written => exact .inr ⟨ascii, written, mapped⟩
      next => cases mapped
  refine ⟨localPart, domain, whole, ?_, ⟨filled, ?_⟩, fun char member => (clean char member).1, ?_⟩
  · have before : '@' ∉ localPart := fun member => (clean '@' member).2 rfl
    rw [whole, List.count_append, List.count_cons_self, List.count_eq_zero.mpr before,
      List.count_eq_zero.mpr apart]
  · rintro rfl
    have none : isDomain [] = false := by decide
    rcases passes with direct | ⟨ascii, written, mapped⟩
    · rw [none] at direct
      cases direct
    · have empty : Idna.toAscii? [] = some [] := by decide +kernel
      rw [empty] at written
      cases written
      rw [none] at mapped
      cases mapped
  · intro free char member
    by_contra stray
    replace stray := eq_true_of_ne_false stray
    rcases passes with direct | ⟨ascii, written, mapped⟩
    · rcases isDomain_cases direct with host | literal
      · rw [isStray_of_isHostName host char member] at stray
        cases stray
      · exact free (.inl literal)
    · rcases isDomain_cases mapped with host | literal
      · obtain ⟨bare, inside, isBare⟩ := Idna.exists_mem_toAscii? written stray member
        have known := isStray_of_isHostName host bare inside
        rw [isBare.isStray] at known
        cases known
      · exact free (.inr ⟨ascii, written, literal⟩)

end Enrolment.Mailbox
