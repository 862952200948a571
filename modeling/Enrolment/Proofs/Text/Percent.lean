import Enrolment.Proofs.Text.Bytes
import Enrolment.Text.Percent

set_option autoImplicit false

namespace Enrolment.Percent

open Bytes (ofChars ofChars_cons ofChars_append)

theorem decode_plain {byte : UInt8} (plain : byte ≠ 37) (rest : Bytes) :
    decode (byte :: rest) = byte :: decode rest := by
  match rest with
  | [] | [_] => simp [decode]
  | high :: low :: rest => rw [decode, if_neg plain]

theorem decode_escape {high low byte : UInt8} (pair : pair? high low = some byte) (rest : Bytes) :
    decode (37 :: high :: low :: rest) = byte :: decode rest := by
  rw [decode, if_pos rfl, pair]

theorem decode_plain_append {bytes : Bytes} (plain : ∀ byte ∈ bytes, byte ≠ 37) (rest : Bytes) :
    decode (bytes ++ rest) = bytes ++ decode rest := by
  induction bytes with
  | nil => rfl
  | cons byte more ih =>
    rw [List.cons_append, decode_plain (plain byte List.mem_cons_self), List.cons_append,
      ih fun other member => plain other (List.mem_cons_of_mem _ member)]

def digitByte (value : Nat) : UInt8 := UInt8.ofNat (Hex.upperDigit value).toNat

theorem digitByte_spec : ∀ value < 16,
    String.utf8EncodeChar (Hex.upperDigit value) = [digitByte value] ∧
      Hex.digit? (Char.ofNat (digitByte value).toNat) = some value := by
  decide

theorem pair?_digitByte {high low : Nat} (highSmall : high < 16) (lowSmall : low < 16) :
    pair? (digitByte high) (digitByte low) = some (UInt8.ofNat (high * 16 + low)) := by
  simp [pair?, (digitByte_spec high highSmall).2, (digitByte_spec low lowSmall).2]

theorem decode_encodeByte (byte : UInt8) (rest : Bytes) :
    decode (ofChars (encodeByte byte) ++ rest) = byte :: decode rest := by
  have bound := byte.toNat_lt
  have high : byte.toNat / 16 < 16 := by omega
  have low : byte.toNat % 16 < 16 := by omega
  have sign : String.utf8EncodeChar '%' = [37] := by decide
  have bytes : ofChars (encodeByte byte) =
      [37, digitByte (byte.toNat / 16), digitByte (byte.toNat % 16)] := by
    simp [encodeByte, ofChars_cons, sign, (digitByte_spec _ high).1, (digitByte_spec _ low).1]
  have pair := pair?_digitByte high low
  rw [Nat.mul_comm, Nat.div_add_mod, UInt8.ofNat_toNat] at pair
  rw [bytes]
  exact decode_escape pair rest

theorem decode_encodeBytes (bytes rest : Bytes) :
    decode (ofChars (bytes.flatMap encodeByte) ++ rest) = bytes ++ decode rest := by
  induction bytes with
  | nil => rfl
  | cons byte more ih =>
    rw [List.flatMap_cons, ofChars_append, List.append_assoc, decode_encodeByte, ih,
      List.cons_append]

variable {reserved : Char → Bool}

theorem decode_encodeChar (percent : reserved '%' = true) (char : Char) (rest : Bytes) :
    decode (ofChars (encodeChar reserved char) ++ rest) =
      String.utf8EncodeChar char ++ decode rest := by
  unfold encodeChar
  split
  next plain =>
    simp only [Bool.and_eq_true, decide_eq_true_eq, Bool.not_eq_true'] at plain
    have single : ofChars [char] = String.utf8EncodeChar char := by simp [ofChars]
    have unlike : char ≠ '%' := by
      rintro rfl
      exact absurd (percent.symm.trans plain.2) (by decide)
    rw [single]
    refine decode_plain_append (fun byte member same => unlike ?_) rest
    rw [Bytes.utf8EncodeChar_ascii char plain.1, List.mem_singleton] at member
    have code : char.toNat = 37 := by
      have value := congrArg UInt8.toNat (member.symm.trans same)
      rw [UInt8.toNat_ofNat'] at value
      simp at value
      omega
    exact Char.ext (UInt32.toNat_inj.mp code)
  · exact decode_encodeBytes _ rest

theorem decode_encode (percent : reserved '%' = true) (chars : List Char) :
    decode (ofChars (encode reserved chars)) = ofChars chars := by
  induction chars with
  | nil => simp [encode, decode]
  | cons char more ih =>
    rw [encode, List.flatMap_cons, ofChars_append, decode_encodeChar percent, ofChars_cons]
    exact congrArg _ ih

theorem decodeText?_encode (percent : reserved '%' = true) (text : String) :
    decodeText? (String.ofList (encode reserved text.toList)) = some text := by
  rw [decodeText?, Bytes.ofString_ofList, decode_encode percent, Bytes.toString?_ofChars,
    String.ofList_toList]

theorem mem_encode {char : Char} {chars : List Char} (member : char ∈ encode reserved chars) :
    (char ∈ chars ∧ reserved char = false) ∨ char = '%' ∨
      ∃ value < 16, char = Hex.upperDigit value := by
  obtain ⟨other, known, member⟩ := List.mem_flatMap.mp member
  unfold encodeChar at member
  split at member
  next plain =>
    simp only [Bool.and_eq_true, Bool.not_eq_true'] at plain
    obtain rfl := List.mem_singleton.mp member
    exact .inl ⟨known, plain.2⟩
  · obtain ⟨byte, -, escaped⟩ := List.mem_flatMap.mp member
    have bound := byte.toNat_lt
    simp only [encodeByte, List.mem_cons, List.not_mem_nil, or_false] at escaped
    rcases escaped with same | same | same
    · exact .inr (.inl same)
    · exact .inr (.inr ⟨_, by omega, same⟩)
    · exact .inr (.inr ⟨_, by omega, same⟩)

theorem not_mem_encode {char : Char} (kept : reserved char = true) (sign : char ≠ '%')
    (digits : ∀ value < 16, char ≠ Hex.upperDigit value) (chars : List Char) :
    char ∉ encode reserved chars := by
  intro member
  obtain ⟨-, free⟩ | same | ⟨value, small, same⟩ := mem_encode member
  · exact absurd (kept.symm.trans free) (by decide)
  · exact sign same
  · exact digits value small same

theorem head?_encode {char : Char} {chars : List Char}
    (first : char ∈ (encode reserved chars).head?) : char ∈ chars.head? ∨ char = '%' := by
  cases chars with
  | nil => cases first
  | cons other more =>
    rw [encode, List.flatMap_cons, encodeChar] at first
    split at first
    · exact .inl first
    · right
      cases bytes : String.utf8EncodeChar other with
      | nil =>
        have size := String.length_utf8EncodeChar other
        have positive := other.utf8Size_pos
        rw [bytes, List.length_nil] at size
        omega
      | cons byte others =>
        rw [bytes] at first
        exact (Option.some.inj first).symm

end Enrolment.Percent
