import Enrolment.Proofs.Text.Bytes
import Enrolment.Text.Base64

set_option autoImplicit false

namespace Enrolment.Base64

def IsVariant (variant : Variant) : Prop := variant = standard ∨ variant = urlSafe

def Variant.symbolByte (variant : Variant) (value : Nat) : UInt8 :=
  UInt8.ofNat (variant.symbol value).toNat

theorem symbol_ascii (variant : Variant) (known : IsVariant variant) (value : Nat)
    (small : value < 64) : (variant.symbol value).toNat < 128 := by
  rcases known with rfl | rfl <;> revert value <;> decide

theorem value?_symbolByte (variant : Variant) (known : IsVariant variant) (value : Nat)
    (small : value < 64) : variant.value? (variant.symbolByte value) = some value := by
  rcases known with rfl | rfl <;> revert value <;> decide

theorem symbolByte_ne_pad (variant : Variant) (known : IsVariant variant) (value : Nat)
    (small : value < 64) : variant.symbolByte value ≠ pad := by
  rcases known with rfl | rfl <;> revert value <;> decide

theorem ofChars_symbol (variant : Variant) (known : IsVariant variant) (value : Nat)
    (small : value < 64) (rest : List Char) :
    Bytes.ofChars (variant.symbol value :: rest) =
      variant.symbolByte value :: Bytes.ofChars rest := by
  rw [Bytes.ofChars_cons, Bytes.utf8EncodeChar_ascii _ (symbol_ascii variant known value small)]
  rfl

theorem read?_quad (variant : Variant) (a b c d : UInt8) (rest : Bytes) (symbol : d ≠ pad) :
    read? variant (a :: b :: c :: d :: rest) =
      (readQuad variant a b c d).bind fun head => (read? variant rest).map (head ++ ·) := by
  cases rest with
  | nil => cases quad : readQuad variant a b c d <;> simp [read?, symbol, quad]
  | cons next more =>
    cases quad : readQuad variant a b c d <;> cases tail : read? variant (next :: more) <;>
      simp [read?, quad, tail]

section Groups

variable (variant : Variant) (known : IsVariant variant)
include known

theorem readQuad_symbols (a b c d : Nat) (aSmall : a < 64) (bSmall : b < 64) (cSmall : c < 64)
    (dSmall : d < 64) :
    readQuad variant (variant.symbolByte a) (variant.symbolByte b) (variant.symbolByte c)
        (variant.symbolByte d) =
      some [UInt8.ofNat (a * 4 + b / 16), UInt8.ofNat (b % 16 * 16 + c / 4),
        UInt8.ofNat (c % 4 * 64 + d)] := by
  simp [readQuad, value?_symbolByte variant known, *]

theorem readTriple_symbols (a b c : Nat) (aSmall : a < 64) (bSmall : b < 64) (cSmall : c < 64)
    (unused : c % 4 = 0) :
    readTriple variant (variant.symbolByte a) (variant.symbolByte b) (variant.symbolByte c) =
      some [UInt8.ofNat (a * 4 + b / 16), UInt8.ofNat (b % 16 * 16 + c / 4)] := by
  simp [readTriple, value?_symbolByte variant known, *]

theorem readPair_symbols (a b : Nat) (aSmall : a < 64) (bSmall : b < 64) (unused : b % 16 = 0) :
    readPair variant (variant.symbolByte a) (variant.symbolByte b) =
      some [UInt8.ofNat (a * 4 + b / 16)] := by
  simp [readPair, value?_symbolByte variant known, *]

end Groups

theorem ofNat_eq (byte : UInt8) (value : Nat) (same : value = byte.toNat) :
    UInt8.ofNat value = byte := by
  rw [same, UInt8.ofNat_toNat]

section Writing

variable {variant : Variant} (known : IsVariant variant)
include known

theorem ofChars_quad (a b c : UInt8) (rest : Bytes) :
    Bytes.ofChars (encodeChars variant (a :: b :: c :: rest)) =
      variant.symbolByte (a.toNat / 4) ::
      variant.symbolByte (a.toNat % 4 * 16 + b.toNat / 16) ::
      variant.symbolByte (b.toNat % 16 * 4 + c.toNat / 64) ::
      variant.symbolByte (c.toNat % 64) :: Bytes.ofChars (encodeChars variant rest) := by
  have aBound := a.toNat_lt
  have bBound := b.toNat_lt
  have cBound := c.toNat_lt
  rw [encodeChars, ofChars_symbol variant known _ (by omega),
    ofChars_symbol variant known _ (by omega), ofChars_symbol variant known _ (by omega),
    ofChars_symbol variant known _ (by omega)]

theorem ofChars_triple (a b : UInt8) :
    Bytes.ofChars (encodeChars variant [a, b]) =
      variant.symbolByte (a.toNat / 4) ::
      variant.symbolByte (a.toNat % 4 * 16 + b.toNat / 16) ::
      variant.symbolByte (b.toNat % 16 * 4) :: if variant.padded then [pad] else [] := by
  have aBound := a.toNat_lt
  have bBound := b.toNat_lt
  rw [encodeChars, ofChars_symbol variant known _ (by omega),
    ofChars_symbol variant known _ (by omega), ofChars_symbol variant known _ (by omega)]
  cases variant.padded <;> rfl

theorem ofChars_pair (a : UInt8) :
    Bytes.ofChars (encodeChars variant [a]) =
      variant.symbolByte (a.toNat / 4) ::
      variant.symbolByte (a.toNat % 4 * 16) :: if variant.padded then [pad, pad] else [] := by
  have aBound := a.toNat_lt
  rw [encodeChars, ofChars_symbol variant known _ (by omega),
    ofChars_symbol variant known _ (by omega)]
  cases variant.padded <;> rfl

end Writing

theorem read?_encodeChars (variant : Variant) (known : IsVariant variant) (bytes : Bytes) :
    read? variant (Bytes.ofChars (encodeChars variant bytes)) = some bytes := by
  induction bytes using encodeChars.induct with
  | case1 a b c rest ih =>
    have aBound := a.toNat_lt
    have bBound := b.toNat_lt
    have cBound := c.toNat_lt
    rw [ofChars_quad known,
      read?_quad variant _ _ _ _ _ (symbolByte_ne_pad variant known _ (by omega)),
      readQuad_symbols variant known _ _ _ _ (by omega) (by omega) (by omega) (by omega), ih,
      ofNat_eq a _ (by omega), ofNat_eq b _ (by omega), ofNat_eq c _ (by omega)]
    rfl
  | case2 a b =>
    have aBound := a.toNat_lt
    have bBound := b.toNat_lt
    -- The unused bits of a short last group are zero, as strict reading wants them.
    have triple := readTriple_symbols variant known (a.toNat / 4)
      (a.toNat % 4 * 16 + b.toNat / 16) (b.toNat % 16 * 4) (by omega) (by omega) (by omega)
      (by omega)
    rw [ofNat_eq a _ (by omega), ofNat_eq b _ (by omega)] at triple
    have distinct := symbolByte_ne_pad variant known (b.toNat % 16 * 4) (by omega)
    rw [ofChars_triple known]
    cases padded : variant.padded <;> simp [read?, padded, triple, distinct]
  | case3 a =>
    have aBound := a.toNat_lt
    have pair := readPair_symbols variant known (a.toNat / 4) (a.toNat % 4 * 16)
      (by omega) (by omega) (by omega)
    rw [ofNat_eq a _ (by omega)] at pair
    rw [ofChars_pair known]
    cases padded : variant.padded <;> simp [read?, padded, pair]
  | case4 => rfl

theorem mem_encodeChars {variant : Variant} {bytes : Bytes} {char : Char}
    (member : char ∈ encodeChars variant bytes) :
    (∃ value < 64, char = variant.symbol value) ∨ char = '=' := by
  fun_induction encodeChars variant bytes with
  | case1 a b c rest ih =>
    have aBound := a.toNat_lt
    have bBound := b.toNat_lt
    have cBound := c.toNat_lt
    simp only [List.mem_cons] at member
    rcases member with rfl | rfl | rfl | rfl | later
    · exact .inl ⟨_, by omega, rfl⟩
    · exact .inl ⟨_, by omega, rfl⟩
    · exact .inl ⟨_, by omega, rfl⟩
    · exact .inl ⟨_, by omega, rfl⟩
    · exact ih later
  | case2 a b =>
    have aBound := a.toNat_lt
    have bBound := b.toNat_lt
    simp only [List.mem_cons, List.mem_ite_nil_right, List.not_mem_nil, or_false] at member
    rcases member with rfl | rfl | rfl | ⟨-, padding⟩
    · exact .inl ⟨_, by omega, rfl⟩
    · exact .inl ⟨_, by omega, rfl⟩
    · exact .inl ⟨_, by omega, rfl⟩
    · exact .inr padding
  | case3 a =>
    have aBound := a.toNat_lt
    simp only [List.mem_cons, List.mem_ite_nil_right, List.not_mem_nil, or_false, or_self] at member
    rcases member with rfl | rfl | ⟨-, padding⟩
    · exact .inl ⟨_, by omega, rfl⟩
    · exact .inl ⟨_, by omega, rfl⟩
    · exact .inr padding
  | case4 => cases member

section Canonical

variable {variant : Variant} (known : IsVariant variant)
include known

theorem symbolByte_value? {byte : UInt8} {value : Nat} (read : variant.value? byte = some value) :
    value < 64 ∧ byte = variant.symbolByte value := by
  have valued (variant : Variant) (all : ∀ code < 256, (variant.value? (UInt8.ofNat code)).all
      fun value => value < 64 && UInt8.ofNat code == variant.symbolByte value)
      (read : variant.value? byte = some value) : value < 64 ∧ byte = variant.symbolByte value := by
    have checked := all byte.toNat byte.toNat_lt
    simpa [read] using checked
  rcases known with rfl | rfl
  · exact valued standard (by decide +kernel) read
  · exact valued urlSafe (by decide +kernel) read

theorem readQuad_canonical {a b c d : UInt8} {bytes : Bytes}
    (read : readQuad variant a b c d = some bytes) (rest : Bytes) :
    a :: b :: c :: d :: Bytes.ofChars (encodeChars variant rest) =
      Bytes.ofChars (encodeChars variant (bytes ++ rest)) := by
  simp only [readQuad, Option.bind_eq_bind, Option.bind_eq_some_iff, Option.some.injEq] at read
  obtain ⟨first, aRead, second, bRead, third, cRead, fourth, dRead, rfl⟩ := read
  obtain ⟨firstSmall, rfl⟩ := symbolByte_value? known aRead
  obtain ⟨secondSmall, rfl⟩ := symbolByte_value? known bRead
  obtain ⟨thirdSmall, rfl⟩ := symbolByte_value? known cRead
  obtain ⟨fourthSmall, rfl⟩ := symbolByte_value? known dRead
  have firstBack : (first * 4 + second / 16) % 2 ^ 8 / 4 = first := by omega
  have secondBack : (first * 4 + second / 16) % 2 ^ 8 % 4 * 16 +
      (second % 16 * 16 + third / 4) % 2 ^ 8 / 16 = second := by omega
  have thirdBack : (second % 16 * 16 + third / 4) % 2 ^ 8 % 16 * 4 +
      (third % 4 * 64 + fourth) % 2 ^ 8 / 64 = third := by omega
  have fourthBack : (third % 4 * 64 + fourth) % 2 ^ 8 % 64 = fourth := by omega
  simp only [List.cons_append, List.nil_append, ofChars_quad known, UInt8.toNat_ofNat', firstBack,
    secondBack, thirdBack, fourthBack]

theorem readTriple_canonical {a b c : UInt8} {bytes : Bytes}
    (read : readTriple variant a b c = some bytes) :
    a :: b :: c :: (if variant.padded then [pad] else []) =
      Bytes.ofChars (encodeChars variant bytes) := by
  simp only [readTriple, Option.bind_eq_bind, Option.bind_eq_some_iff, Option.ite_none_right_eq_some,
    Option.some.injEq] at read
  obtain ⟨first, aRead, second, bRead, third, cRead, unused, rfl⟩ := read
  obtain ⟨firstSmall, rfl⟩ := symbolByte_value? known aRead
  obtain ⟨secondSmall, rfl⟩ := symbolByte_value? known bRead
  obtain ⟨thirdSmall, rfl⟩ := symbolByte_value? known cRead
  have firstBack : (first * 4 + second / 16) % 2 ^ 8 / 4 = first := by omega
  have secondBack : (first * 4 + second / 16) % 2 ^ 8 % 4 * 16 +
      (second % 16 * 16 + third / 4) % 2 ^ 8 / 16 = second := by omega
  have thirdBack : (second % 16 * 16 + third / 4) % 2 ^ 8 % 16 * 4 = third := by omega
  simp only [ofChars_triple known, UInt8.toNat_ofNat', firstBack, secondBack, thirdBack]

theorem readPair_canonical {a b : UInt8} {bytes : Bytes}
    (read : readPair variant a b = some bytes) :
    a :: b :: (if variant.padded then [pad, pad] else []) =
      Bytes.ofChars (encodeChars variant bytes) := by
  simp only [readPair, Option.bind_eq_bind, Option.bind_eq_some_iff, Option.ite_none_right_eq_some,
    Option.some.injEq] at read
  obtain ⟨first, aRead, second, bRead, unused, rfl⟩ := read
  obtain ⟨firstSmall, rfl⟩ := symbolByte_value? known aRead
  obtain ⟨secondSmall, rfl⟩ := symbolByte_value? known bRead
  have firstBack : (first * 4 + second / 16) % 2 ^ 8 / 4 = first := by omega
  have secondBack : (first * 4 + second / 16) % 2 ^ 8 % 4 * 16 = second := by omega
  simp only [ofChars_pair known, UInt8.toNat_ofNat', firstBack, secondBack]

theorem eq_encodeChars_of_read? {text bytes : Bytes} (read : read? variant text = some bytes) :
    text = Bytes.ofChars (encodeChars variant bytes) := by
  fun_induction read? variant text generalizing bytes with
  | case1 =>
    cases read
    rfl
  | case2 | case3 | case5 => cases read
  | case4 a b unpadded => simpa [unpadded] using readPair_canonical known read
  | case6 a b c unpadded => simpa [unpadded] using readTriple_canonical known read
  | case7 a b d padding =>
    obtain ⟨padded, rfl⟩ : variant.padded = true ∧ d = pad := by simpa using padding
    simpa [padded] using readPair_canonical known read
  | case8 a b c d padding =>
    obtain ⟨padded, rfl⟩ : variant.padded = true ∧ d = pad := by simpa using padding
    simpa [padded] using readTriple_canonical known read
  | case9 a b c d => simpa [encodeChars] using readQuad_canonical known read []
  | case10 a b c d rest more ih =>
    simp only [Option.bind_eq_bind, Option.bind_eq_some_iff, Option.pure_def,
      Option.some.injEq] at read
    obtain ⟨head, headRead, tail, tailRead, rfl⟩ := read
    rw [ih tailRead, readQuad_canonical known headRead]

theorem read?_eq_some_iff {text bytes : Bytes} :
    read? variant text = some bytes ↔ text = Bytes.ofChars (encodeChars variant bytes) := by
  refine ⟨eq_encodeChars_of_read? known, ?_⟩
  rintro rfl
  exact read?_encodeChars variant known bytes

end Canonical

end Enrolment.Base64
