import Enrolment.Proofs.Text.Hex
import Enrolment.Proofs.Text.Lines
import Enrolment.Uuid

set_option autoImplicit false

namespace Enrolment.Uuid

theorem flatten_cutInto (sizes : List Nat) (chars : List Char) :
    (cutInto sizes chars).flatten = chars.take sizes.sum := by
  induction sizes generalizing chars with
  | nil => simp [cutInto]
  | cons size more ih => rw [cutInto, List.flatten_cons, ih, List.sum_cons, List.take_add]

theorem lengths_cutInto (sizes : List Nat) (chars : List Char) (enough : sizes.sum ≤ chars.length) :
    (cutInto sizes chars).map List.length = sizes := by
  induction sizes generalizing chars with
  | nil => rfl
  | cons size more ih =>
    rw [List.sum_cons] at enough
    rw [cutInto, List.map_cons, List.length_take, ih _ (by rw [List.length_drop]; omega),
      Nat.min_eq_left (by omega)]

theorem mem_of_mem_cutInto {sizes : List Nat} {chars part : List Char} {char : Char}
    (cut : part ∈ cutInto sizes chars) (member : char ∈ part) : char ∈ chars := by
  induction sizes generalizing chars with
  | nil => simp [cutInto] at cut
  | cons size more ih =>
    rcases List.mem_cons.mp cut with rfl | later
    · exact List.mem_of_mem_take member
    · exact List.mem_of_mem_drop (ih later)

variable (uuid : Uuid)

def digits : List Char := (Hex.encodeLower (Bytes.ofNat 16 uuid.value)).toList

theorem length_digits : uuid.digits.length = 32 := by
  rw [digits, Hex.encodeLower, Hex.length_encodeWith, Bytes.length_ofNat]

theorem ofDigits?_digits : ofDigits? uuid.digits = some uuid := by
  have back : uuid.value % 256 ^ 16 = uuid.value := Nat.mod_eq_of_lt uuid.value_lt
  have read : ofNat (Bytes.toNat (Bytes.ofNat 16 uuid.value)) = uuid := by
    rw [Bytes.toNat_ofNat, back]
    unfold ofNat
    congr 1
  rw [ofDigits?, length_digits, digits, Hex.decode?_encodeLower]
  simp [read]

theorem toList_text : uuid.text.toList = ['-'].intercalate (cutInto groups uuid.digits) :=
  String.toList_ofList

theorem ofGroups?_text : ofGroups? uuid.text.toList = some uuid := by
  have apart : ∀ part ∈ cutInto groups uuid.digits, '-' ∉ part := fun part cut member =>
    Hex.not_mem_encodeWith (by decide) _ (mem_of_mem_cutInto cut member)
  have parts : splitAt '-' uuid.text.toList = cutInto groups uuid.digits := by
    rw [toList_text, splitAt_eq_splitOn]
    exact List.splitOn_intercalate _ apart (by simp [cutInto, groups])
  have whole : (cutInto groups uuid.digits).flatten = uuid.digits := by
    rw [flatten_cutInto]
    exact List.take_of_length_le (by rw [length_digits]; decide)
  rw [ofGroups?, parts, lengths_cutInto _ _ (by rw [length_digits]; decide), if_pos rfl, whole,
    ofDigits?_digits]

-- Four signs between the groups make the text too long for plain digits.
theorem ofDigits?_text : ofDigits? uuid.text.toList = none := by
  have length : uuid.text.toList.length = 36 := by
    rw [toList_text]
    simp [cutInto, groups, List.intercalate, length_digits]
  simp [ofDigits?, length]

theorem ofText?_text : ofText? uuid.text = some uuid := by
  simp [ofText?, ofDigits?_text, ofGroups?_text]

end Enrolment.Uuid
