import Enrolment.Text.Bytes
import Mathlib.Tactic.Ring

set_option autoImplicit false

namespace Enrolment

namespace Hex

theorem digit?_lowerDigit : ∀ value < 16, digit? (lowerDigit value) = some value := by decide

theorem decode?_encodeLower (bytes : Bytes) : decode? (encodeLower bytes).toList = some bytes := by
  rw [encodeLower, encodeWith, String.toList_ofList]
  induction bytes with
  | nil => rfl
  | cons byte more ih =>
    have bound := byte.toNat_lt
    have high := digit?_lowerDigit (byte.toNat / 16) (by omega)
    have low := digit?_lowerDigit (byte.toNat % 16) (by omega)
    rw [List.flatMap_cons, List.cons_append, List.cons_append, List.nil_append, decode?, high, low,
      ih]
    change some (UInt8.ofNat (byte.toNat / 16 * 16 + byte.toNat % 16) :: more) = some (byte :: more)
    rw [Nat.div_add_mod', UInt8.ofNat_toNat]

theorem length_encodeWith (digit : Nat → Char) (bytes : Bytes) :
    (encodeWith digit bytes).toList.length = 2 * bytes.length := by
  rw [encodeWith, String.toList_ofList, List.length_flatMap]
  simp [List.map_const', Nat.mul_comm]

theorem mem_encodeWith {digit : Nat → Char} {char : Char} {bytes : Bytes}
    (member : char ∈ (encodeWith digit bytes).toList) : ∃ value < 16, char = digit value := by
  simp only [encodeWith, String.toList_ofList, List.mem_flatMap, List.mem_cons,
    List.not_mem_nil, or_false] at member
  obtain ⟨byte, -, high | low⟩ := member
  · have bound := byte.toNat_lt
    exact ⟨byte.toNat / 16, by omega, high⟩
  · exact ⟨byte.toNat % 16, Nat.mod_lt _ (by decide), low⟩

theorem not_mem_encodeWith {digit : Nat → Char} {char : Char}
    (foreign : ∀ value < 16, char ≠ digit value) (bytes : Bytes) :
    char ∉ (encodeWith digit bytes).toList := by
  intro member
  obtain ⟨value, small, same⟩ := mem_encodeWith member
  exact foreign value small same

end Hex

namespace Bytes

theorem foldl_ofNat (size value front : Nat) :
    (ofNat size value).foldl (fun value byte => value * 256 + byte.toNat) front =
      front * 256 ^ size + value % 256 ^ size := by
  induction size generalizing front with
  | zero => simp [ofNat, Nat.mod_one]
  | succ size ih =>
    have split : value % 256 ^ (size + 1) =
        value % 256 ^ size + 256 ^ size * (value / 256 ^ size % 256) := Nat.mod_mul
    rw [ofNat, List.foldl_cons, ih, UInt8.toNat_ofNat', split, Nat.pow_succ]
    simp only [Nat.pow_eq, Nat.mod_mod]
    ring

theorem toNat_ofNat (size value : Nat) : toNat (ofNat size value) = value % 256 ^ size := by
  rw [toNat, foldl_ofNat, Nat.zero_mul, Nat.zero_add]

end Bytes

end Enrolment
