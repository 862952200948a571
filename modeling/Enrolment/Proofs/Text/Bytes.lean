import Enrolment.Text.Bytes

set_option autoImplicit false

namespace Enrolment.Bytes

def ofChars (chars : List Char) : Bytes := chars.flatMap String.utf8EncodeChar

@[simp] theorem ofChars_nil : ofChars [] = [] := rfl

@[simp] theorem ofChars_append (left right : List Char) :
    ofChars (left ++ right) = ofChars left ++ ofChars right := List.flatMap_append

theorem ofChars_cons (char : Char) (chars : List Char) :
    ofChars (char :: chars) = String.utf8EncodeChar char ++ ofChars chars := List.flatMap_cons

theorem toList_loop (bytes : ByteArray) (index : Nat) (read : List UInt8) :
    ByteArray.toList.loop bytes index read = read.reverse ++ bytes.data.toList.drop index := by
  fun_induction ByteArray.toList.loop bytes index read with
  | case1 index read within ih =>
    have bound : index < bytes.data.toList.length := by simpa using within
    have byte : bytes.get! index = bytes.data.toList[index] := by
      simp only [ByteArray.get!, Array.getElem_toList]
      exact getElem!_pos bytes.data index (by simpa using bound)
    rw [ih, List.drop_eq_getElem_cons bound, byte]
    simp
  | case2 index read outside =>
    have past : bytes.data.toList.length ≤ index := by simpa using outside
    simp [List.drop_eq_nil_of_le past]

theorem toList_data (bytes : ByteArray) : bytes.toList = bytes.data.toList := by
  simpa [ByteArray.toList] using toList_loop bytes 0 []

theorem ofString_eq (text : String) : ofString text = ofChars text.toList := by
  rw [ofString, toList_data, String.toUTF8_eq_toByteArray, ← String.utf8Encode_toList]
  exact List.toList_data_toByteArray

@[simp] theorem ofString_ofList (chars : List Char) :
    ofString (String.ofList chars) = ofChars chars := by
  rw [ofString_eq, String.toList_ofList]

theorem ofString_append (left right : String) :
    ofString (left ++ right) = ofString left ++ ofString right := by
  simp [ofString_eq]

@[simp] theorem toString?_ofString (text : String) : toString? (ofString text) = some text := by
  have bytes : (⟨(ofString text).toArray⟩ : ByteArray) = text.toByteArray := by
    rw [ofString, toList_data, String.toUTF8_eq_toByteArray, Array.toArray_toList]
  rw [toString?, bytes, String.fromUTF8?, dif_pos text.isValidUTF8]
  rfl

@[simp] theorem toString?_ofChars (chars : List Char) :
    toString? (ofChars chars) = some (String.ofList chars) := by
  rw [← ofString_ofList, toString?_ofString]

theorem toString?_eq_some_iff {bytes : Bytes} {text : String} :
    toString? bytes = some text ↔ bytes = ofString text := by
  constructor
  · intro read
    rw [toString?, String.fromUTF8?] at read
    split at read
    next valid =>
      cases read
      rw [ofString, toList_data]
      rfl
    next => cases read
  · rintro rfl
    exact toString?_ofString text

theorem ofString_injective {left right : String} (same : ofString left = ofString right) :
    left = right := by
  have read := congrArg toString? same
  simpa using read

theorem ofChars_injective {left right : List Char} (same : ofChars left = ofChars right) :
    left = right := by
  have read : String.ofList left = String.ofList right := by simpa using congrArg toString? same
  simpa using congrArg String.toList read

theorem utf8EncodeChar_ascii (char : Char) (ascii : char.toNat < 128) :
    String.utf8EncodeChar char = [UInt8.ofNat char.toNat] := by
  have small : char.val.toNat ≤ 127 := by
    change char.toNat ≤ 127
    omega
  simp only [String.utf8EncodeChar, small, if_true]
  rfl

theorem ofChars_ascii {chars : List Char} (ascii : ∀ char ∈ chars, char.toNat < 128) :
    ofChars chars = chars.map fun char => UInt8.ofNat char.toNat := by
  induction chars with
  | nil => rfl
  | cons char chars ih =>
    rw [ofChars_cons, utf8EncodeChar_ascii char (ascii char List.mem_cons_self),
      ih fun other member => ascii other (List.mem_cons_of_mem _ member)]
    rfl

theorem utf8EncodeChar_foreign (char : Char) (foreign : 128 ≤ char.toNat) :
    ∀ byte ∈ String.utf8EncodeChar char, 128 ≤ byte.toNat := by
  have large : ¬ char.val.toNat ≤ 127 := by
    change ¬ char.toNat ≤ 127
    omega
  intro byte member
  simp only [String.utf8EncodeChar, large, if_false] at member
  split at member
  · simp only [List.mem_cons, List.not_mem_nil, or_false] at member
    rcases member with rfl | rfl <;> rw [UInt8.toNat_ofNat'] <;> omega
  · split at member
    · simp only [List.mem_cons, List.not_mem_nil, or_false] at member
      rcases member with rfl | rfl | rfl <;> rw [UInt8.toNat_ofNat'] <;> omega
    · simp only [List.mem_cons, List.not_mem_nil, or_false] at member
      rcases member with rfl | rfl | rfl | rfl <;> rw [UInt8.toNat_ofNat'] <;> omega

end Enrolment.Bytes
