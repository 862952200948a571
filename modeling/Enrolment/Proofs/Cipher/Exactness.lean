import Enrolment.Proofs.Cipher.Opening

set_option autoImplicit false

namespace Enrolment

theorem Base64.encode_eq_iff {text : String} {bytes : Bytes} :
    text = encode standard bytes ↔ read? standard (Bytes.ofString text) = some bytes := by
  rw [read?_eq_some_iff (.inl rfl), encode, ← Bytes.ofString_ofList]
  exact ⟨congrArg Bytes.ofString, Bytes.ofString_injective⟩

theorem Base64.encode_injective {left right : Bytes}
    (same : encode standard left = encode standard right) : left = right := by
  have own := encode_eq_iff.mp (rfl : encode standard left = encode standard left)
  rw [encode_eq_iff.mp same] at own
  exact (Option.some.inj own).symm

namespace Gcm

variable {key : Bytes} (size : key.length = keySize) {nonce associated sealed ciphertext tag : Bytes}

theorem decrypt?_forged (tagged : tag.length = tagSize)
    (differs : tag ≠ Gcm.tag (Aes.roundKeys key) nonce associated ciphertext) :
    decrypt? key nonce associated (ciphertext ++ tag) = none := by
  have cut : (ciphertext ++ tag).length - tagSize = ciphertext.length := by
    rw [List.length_append, tagged, Nat.add_sub_cancel]
  simp only [decrypt?, cut, List.take_left, List.drop_left, differs, if_false, ite_self]

include size in
theorem exists_encrypt_or_forged (long : tagSize ≤ sealed.length) :
    (∃ plaintext, sealed = encrypt key nonce associated plaintext) ∨
      ∃ ciphertext tag, sealed = ciphertext ++ tag ∧ tag.length = tagSize ∧
        tag ≠ Gcm.tag (Aes.roundKeys key) nonce associated ciphertext := by
  have schedule := Aes.isSchedule_roundKeys key size
  have parts := List.take_append_drop (sealed.length - tagSize) sealed
  have tagged : (sealed.drop (sealed.length - tagSize)).length = tagSize := by
    rw [List.length_drop]
    omega
  generalize sealed.take (sealed.length - tagSize) = ciphertext at parts
  generalize sealed.drop (sealed.length - tagSize) = tag at parts tagged
  by_cases fits : tag = Gcm.tag (Aes.roundKeys key) nonce associated ciphertext
  · refine .inl ⟨crypt (Aes.roundKeys key) nonce ciphertext, ?_⟩
    rw [encrypt, crypt_crypt schedule, ← fits, parts]
  · exact .inr ⟨ciphertext, tag, parts.symm, tagged, fits⟩

end Gcm

def Bytes.cut? (position : Nat) (bytes : Bytes) : Option (Bytes × Bytes) :=
  if position ≤ bytes.length then some (bytes.take position, bytes.drop position) else none

namespace EmailCipher

variable (cipher : EmailCipher) (address : String)

-- The ways in which a text is no sealed email of an address.
inductive Damaged : String → Prop
  -- It is not base64 in the one form that writing gives.
  | misspelt {text : String} (foreign : ∀ bytes, text ≠ Base64.encode Base64.standard bytes) :
      Damaged text
  | short {bytes : Bytes} (short : bytes.length < Gcm.nonceSize + Gcm.tagSize) :
      Damaged (Base64.encode Base64.standard bytes)
  | forged {nonce ciphertext tag : Bytes} (drawn : nonce.length = Gcm.nonceSize)
      (tagged : tag.length = Gcm.tagSize)
      (differs : tag ≠
        Gcm.tag (Aes.roundKeys cipher.key) nonce (Bytes.ofString address) ciphertext) :
      Damaged (Base64.encode Base64.standard (nonce ++ (ciphertext ++ tag)))
  -- The plaintext is no UTF-8.
  | garbled {nonce plaintext : Bytes} (drawn : nonce.length = Gcm.nonceSize)
      (garbled : ∀ email, plaintext ≠ Bytes.ofString email) :
      Damaged (Base64.encode Base64.standard
        (nonce ++ Gcm.encrypt cipher.key nonce (Bytes.ofString address) plaintext))

variable {cipher address} {text : String}

theorem sealed_eq {nonce : Bytes} (drawn : nonce.length = Gcm.nonceSize) (email : String) :
    cipher.sealed nonce address email = Base64.encode Base64.standard
      (nonce ++ Gcm.encrypt cipher.key nonce (Bytes.ofString address) (Bytes.ofString email)) := by
  simp only [sealed, List.take_of_length_le (Nat.le_of_eq drawn)]

theorem sealed_or_damaged (cipher : EmailCipher) (address text : String) :
    (∃ nonce email, nonce.length = Gcm.nonceSize ∧ text = cipher.sealed nonce address email) ∨
      cipher.Damaged address text := by
  -- The cases come in the order in which opening looks at a text.
  cases read : Base64.read? Base64.standard (Bytes.ofString text) with
  | none =>
    refine .inr (.misspelt fun bytes same => ?_)
    rw [Base64.encode_eq_iff.mp same] at read
    cases read
  | some bytes =>
    obtain rfl := Base64.encode_eq_iff.mpr read
    by_cases short : bytes.length < Gcm.nonceSize + Gcm.tagSize
    · exact .inr (.short short)
    have parts := List.take_append_drop Gcm.nonceSize bytes
    have drawn : (bytes.take Gcm.nonceSize).length = Gcm.nonceSize := by
      rw [List.length_take]
      omega
    have long : Gcm.tagSize ≤ (bytes.drop Gcm.nonceSize).length := by
      rw [List.length_drop]
      omega
    rcases Gcm.exists_encrypt_or_forged cipher.key_size long with
      ⟨plaintext, encrypted⟩ | ⟨ciphertext, tag, framed, tagged, differs⟩
    · rw [← parts, encrypted]
      by_cases readable : ∃ email, plaintext = Bytes.ofString email
      · obtain ⟨email, rfl⟩ := readable
        exact .inl ⟨_, email, drawn, (sealed_eq drawn email).symm⟩
      · exact .inr (.garbled drawn (not_exists.mp readable))
    · rw [← parts, framed]
      exact .inr (.forged drawn tagged differs)

theorem opened_damaged (damaged : cipher.Damaged address text) :
    cipher.opened address text = .error .unopened := by
  cases damaged with
  | misspelt foreign =>
    have unread : Base64.read? Base64.standard (Bytes.ofString text) = none :=
      Option.eq_none_iff_forall_ne_some.mpr fun bytes read =>
        foreign bytes (Base64.encode_eq_iff.mpr read)
    simp [opened, unread]
  | short short => simp [opened, Base64.encode_eq_iff.mp rfl, short]
  | forged drawn tagged differs =>
    rw [opened_framed cipher address drawn (by rw [List.length_append]; omega),
      Gcm.decrypt?_forged tagged differs]
    rfl
  | @garbled nonce plaintext drawn garbled =>
    have encrypted := Gcm.length_encrypt cipher.key_size nonce (Bytes.ofString address) plaintext
    have unreadable : Bytes.toString? plaintext = none :=
      Option.eq_none_iff_forall_ne_some.mpr fun email read =>
        garbled email (Bytes.toString?_eq_some_iff.mp read)
    rw [opened_framed cipher address drawn (by omega), Gcm.decrypt?_encrypt cipher.key_size,
      Option.bind_some, unreadable, Option.elim_none]

theorem opened_eq_error_iff :
    cipher.opened address text = .error .unopened ↔ cipher.Damaged address text := by
  refine ⟨fun refused => ?_, opened_damaged⟩
  rcases cipher.sealed_or_damaged address text with ⟨nonce, email, drawn, rfl⟩ | damaged
  · rw [cipher.opened_sealed (Nat.le_of_eq drawn.symm)] at refused
    cases refused
  · exact damaged

theorem damaged_of_whiteSpace {char : Char} (member : char ∈ text.toList)
    (blank : isWhiteSpace char = true) : cipher.Damaged address text := by
  have symbols : ∀ value < 64, isWhiteSpace (Base64.standard.symbol value) = false := by decide
  refine .misspelt fun bytes same => ?_
  rw [same, Base64.encode, String.toList_ofList] at member
  rcases Base64.mem_encodeChars member with ⟨value, small, rfl⟩ | rfl
  · rw [symbols value small] at blank
    cases blank
  · cases blank

theorem sealed_of_opened {email : String} (opened : cipher.opened address text = .ok email) :
    ∃ bytes, Base64.read? Base64.standard (Bytes.ofString text) = some bytes ∧
      (bytes.take Gcm.nonceSize).length = Gcm.nonceSize ∧
      text = cipher.sealed (bytes.take Gcm.nonceSize) address email := by
  rcases cipher.sealed_or_damaged address text with ⟨nonce, other, drawn, rfl⟩ | damaged
  · rw [cipher.opened_sealed (Nat.le_of_eq drawn.symm), Except.ok.injEq] at opened
    subst opened
    refine ⟨_, Base64.encode_eq_iff.mp (sealed_eq drawn other), ?_⟩
    rw [List.take_left' drawn]
    exact ⟨drawn, rfl⟩
  · rw [opened_damaged damaged] at opened
    cases opened

def openedChecked (cipher : EmailCipher) (address text : String) :
    Option (Except Fault String) :=
  match Base64.read? Base64.standard (Bytes.ofString text) with
  | none => some (.error .unopened)
  | some bytes =>
    if bytes.length < Gcm.nonceSize + Gcm.tagSize then some (.error .unopened)
    else do
      let (nonce, ciphertext) ← bytes.cut? Gcm.nonceSize
      match (Gcm.decrypt? cipher.key nonce (Bytes.ofString address) ciphertext).bind
          Bytes.toString? with
      | some email => return .ok email
      | none => return .error .unopened

theorem openedChecked_eq (cipher : EmailCipher) (address text : String) :
    cipher.openedChecked address text = some (cipher.opened address text) := by
  unfold openedChecked
  split
  next unread => simp [opened, unread]
  next bytes read =>
    obtain rfl := Base64.encode_eq_iff.mpr read
    split
    next short => rw [opened_damaged (.short short)]
    next long =>
      have within : Gcm.nonceSize ≤ bytes.length := by omega
      have parts := List.take_append_drop Gcm.nonceSize bytes
      have tagged : Gcm.tagSize ≤ (bytes.drop Gcm.nonceSize).length := by
        rw [List.length_drop]
        omega
      have framed := cipher.opened_framed address (List.length_take_of_le within) tagged
      rw [parts] at framed
      rw [framed, Bytes.cut?, if_pos within]
      simp only [Option.bind_eq_bind, Option.bind_some]
      generalize Option.bind _ Bytes.toString? = email
      cases email <;> rfl

theorem opened_iff_sealed (cipher : EmailCipher) (address : String) :
    (∀ nonce email, nonce.length = Gcm.nonceSize →
        cipher.opened address (cipher.sealed nonce address email) = .ok email) ∧
      (∀ text email, cipher.opened address text = .ok email →
        ∃ bytes, Base64.read? Base64.standard (Bytes.ofString text) = some bytes ∧
          (bytes.take Gcm.nonceSize).length = Gcm.nonceSize ∧
          text = cipher.sealed (bytes.take Gcm.nonceSize) address email) ∧
      (∀ text,
        (∀ nonce email, nonce.length = Gcm.nonceSize → text ≠ cipher.sealed nonce address email) →
          cipher.opened address text = .error .unopened) ∧
      (∀ text, cipher.opened address text = .error .unopened ↔ cipher.Damaged address text) ∧
      (∀ text, (∃ char ∈ text.toList, isWhiteSpace char = true) → cipher.Damaged address text) ∧
      ∀ text, cipher.openedChecked address text = some (cipher.opened address text) := by
  refine ⟨?opens, ?exact, ?foreign, fun text => opened_eq_error_iff, ?blank,
    cipher.openedChecked_eq address⟩
  case opens =>
    intro nonce email drawn
    exact cipher.opened_sealed (Nat.le_of_eq drawn.symm) address email
  case exact =>
    intro text email opened
    exact sealed_of_opened opened
  case foreign =>
    intro text foreign
    rcases cipher.sealed_or_damaged address text with ⟨nonce, email, drawn, same⟩ | damaged
    · exact absurd same (foreign nonce email drawn)
    · exact opened_damaged damaged
  case blank =>
    rintro text ⟨char, member, blank⟩
    exact damaged_of_whiteSpace member blank

def vault : EmailCipher := ⟨List.replicate 32 9, by decide⟩

def firstNonce : Bytes := (List.range 12).map UInt8.ofNat

def keepsake : String := vault.sealed firstNonce "é" "a@b.c"

theorem opened_iff_sealed_keepsake :
    vault.opened "é" keepsake = .ok "a@b.c" ∧
      (∃ bytes, Base64.read? Base64.standard (Bytes.ofString keepsake) = some bytes ∧
        keepsake = vault.sealed (bytes.take 12) "é" "a@b.c") ∧
      vault.opened "é" (keepsake ++ "\n") = .error .unopened ∧
      vault.opened "é" "" = .error .unopened := by
  obtain ⟨opens, exact, foreign, damaged, blank, -⟩ := vault.opened_iff_sealed "é"
  have opened := opens firstNonce "a@b.c" (by decide)
  obtain ⟨bytes, read, -, same⟩ := exact keepsake "a@b.c" opened
  refine ⟨opened, ⟨bytes, read, same⟩, ?_, foreign "" fun nonce email drawn same => ?_⟩
  · exact (damaged _).mpr (blank _ ⟨'\n', by simp, by decide⟩)
  · rw [sealed_eq drawn] at same
    have empty : [] = nonce ++ _ := Base64.encode_injective same
    have size := congrArg List.length empty
    rw [List.length_append, drawn] at size
    simp only [List.length_nil, Gcm.nonceSize] at size
    omega

end EmailCipher

end Enrolment
