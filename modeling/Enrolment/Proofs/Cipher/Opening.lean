import Enrolment.Cipher.EmailCipher
import Enrolment.Proofs.Text.Base64

set_option autoImplicit false

namespace Enrolment

theorem Bytes.length_xor (left right : Bytes) :
    (Bytes.xor left right).length = min left.length right.length := List.length_zipWith

theorem Bytes.xor_xor (text mask : Bytes) (covered : text.length ≤ mask.length) :
    Bytes.xor (Bytes.xor text mask) mask = text := by
  induction text generalizing mask with
  | nil => simp [Bytes.xor]
  | cons byte text ih =>
    cases mask with
    | nil => simp at covered
    | cons other mask =>
      have rest := ih mask (by simpa using covered)
      simp only [Bytes.xor, List.zipWith_cons_cons, List.cons.injEq] at rest ⊢
      refine ⟨?_, rest⟩
      rw [UInt8.xor_assoc, UInt8.xor_self, UInt8.xor_zero]

theorem Bytes.length_flatten (size : Nat) (parts : List Bytes)
    (sizes : ∀ part ∈ parts, part.length = size) :
    parts.flatten.length = parts.length * size := by
  induction parts with
  | nil => simp
  | cons part parts ih =>
    have rest := ih fun other member => sizes other (List.mem_cons_of_mem _ member)
    rw [List.flatten_cons, List.length_append, rest, sizes part List.mem_cons_self,
      List.length_cons, Nat.succ_mul, Nat.add_comm]

namespace Aes

def IsWord (word : Bytes) : Prop := word.length = 4

theorem isWord_keyWords (key : Bytes) (size : key.length = 32) :
    ∀ word ∈ keyWords key, IsWord word := by
  intro word member
  obtain ⟨index, inside, rfl⟩ := List.mem_map.mp member
  have bound := List.mem_range.mp inside
  rw [IsWord, List.length_take, List.length_drop, size]
  omega

theorem length_rotate (word : Bytes) : (rotate word).length = word.length := by
  cases word <;> simp [rotate]

theorem isWord_nextWord (index : Nat) (constant : UInt8) (recent : List Bytes)
    (begun : recent ≠ []) (words : ∀ word ∈ recent, IsWord word) :
    IsWord (nextWord index constant recent) := by
  have newest : (recent.headD []).length = 4 := by
    rw [List.headD_eq_head?_getD, List.head?_eq_some_head begun]
    exact words _ (List.head_mem begun)
  have oldest : (recent.getLastD []).length = 4 := by
    rw [List.getLastD_eq_getLast?, List.getLast?_eq_some_getLast begun]
    exact words _ (List.getLast_mem begun)
  unfold IsWord nextWord
  simp only [Bytes.length_xor, oldest]
  -- Whatever is done to the newest word, it keeps its length.
  split
  · simp only [Bytes.length_xor, List.length_map, length_rotate, newest]
    rfl
  · split
    · rw [List.length_map, newest, Nat.min_self]
    · rw [newest, Nat.min_self]

theorem isWord_expand (count index : Nat) (constant : UInt8) (recent : List Bytes)
    (begun : recent ≠ []) (words : ∀ word ∈ recent, IsWord word) :
    ∀ word ∈ expand count index constant recent, IsWord word := by
  induction count generalizing index constant recent with
  | zero => simp [expand]
  | succ count ih =>
    have next := isWord_nextWord index constant recent begun words
    intro word member
    simp only [expand, List.mem_cons] at member
    rcases member with rfl | later
    · exact next
    · refine ih _ _ _ (by simp) ?_ word later
      intro other among
      rcases List.mem_cons.mp among with rfl | kept
      · exact next
      · exact words other (List.mem_of_mem_take kept)

theorem length_expand (count index : Nat) (constant : UInt8) (recent : List Bytes) :
    (expand count index constant recent).length = count := by
  induction count generalizing index constant recent with
  | zero => rfl
  | succ count ih => simp [expand, ih]

structure IsSchedule (keys : List Bytes) : Prop where
  several : 2 ≤ keys.length
  blocks : ∀ key ∈ keys, key.length = 16

theorem isSchedule_roundKeys (key : Bytes) (size : key.length = 32) :
    IsSchedule (roundKeys key) := by
  have words := isWord_keyWords key size
  have begun : (keyWords key).reverse ≠ [] := by simp [keyWords]
  have expanded := isWord_expand (4 * (rounds + 1) - 8) 8 1 (keyWords key).reverse begun
    (by simpa using words)
  constructor
  case several => simp [roundKeys, rounds]
  case blocks =>
    intro roundKey member
    obtain ⟨round, inside, rfl⟩ := List.mem_map.mp member
    have bound := List.mem_range.mp inside
    rw [Bytes.length_flatten 4, List.length_take, List.length_drop, List.length_append,
      length_expand]
    · simp only [keyWords, List.length_map, List.length_range, rounds] at bound ⊢
      omega
    · intro word among
      rcases List.mem_append.mp (List.mem_of_mem_drop (List.mem_of_mem_take among)) with
        given | derived
      · exact words word given
      · exact expanded word derived

theorem length_encryptWith {keys : List Bytes} (schedule : IsSchedule keys) (block : Bytes) :
    (encryptWith keys block).length = 16 := by
  rcases keys with _ | ⟨first, _ | ⟨second, others⟩⟩
  · exact absurd schedule.several (by simp)
  · exact absurd schedule.several (by simp)
  · have begun : second :: others ≠ [] := List.cons_ne_nil second others
    have last : ((second :: others).getLastD []).length = 16 := by
      rw [List.getLastD_eq_getLast?, List.getLast?_eq_some_getLast begun]
      exact schedule.blocks _ (List.mem_cons_of_mem _ (List.getLast_mem begun))
    -- The last round moves all 16 bytes, whatever the rounds before have made of the block.
    simp only [encryptWith, lastRound, shiftRows, Bytes.length_xor, List.length_map,
      List.length_range, last, Nat.min_self]

end Aes

namespace Gcm

variable {keys : List Bytes}

theorem length_keystream (schedule : Aes.IsSchedule keys) (nonce : Bytes) (blocks counter : Nat) :
    (keystream keys nonce blocks counter).length = 16 * blocks := by
  induction blocks generalizing counter with
  | zero => rfl
  | succ blocks ih =>
    rw [keystream, List.length_append, Aes.length_encryptWith schedule, ih, Nat.mul_succ,
      Nat.add_comm]

theorem length_crypt (schedule : Aes.IsSchedule keys) (nonce text : Bytes) :
    (crypt keys nonce text).length = text.length := by
  rw [crypt, Bytes.length_xor, length_keystream schedule]
  omega

theorem crypt_crypt (schedule : Aes.IsSchedule keys) (nonce text : Bytes) :
    crypt keys nonce (crypt keys nonce text) = text := by
  have covered : text.length ≤ (keystream keys nonce ((text.length + 15) / 16) 2).length := by
    rw [length_keystream schedule]
    omega
  rw [crypt, length_crypt schedule, crypt, Bytes.xor_xor text _ covered]

theorem length_tag (schedule : Aes.IsSchedule keys) (nonce associated ciphertext : Bytes) :
    (tag keys nonce associated ciphertext).length = tagSize := by
  simp only [tag, Bytes.length_xor, Bytes.length_ofNat, Aes.length_encryptWith schedule]
  rfl

variable {key : Bytes} (size : key.length = keySize) (nonce associated plaintext : Bytes)
include size

theorem length_encrypt :
    (encrypt key nonce associated plaintext).length = plaintext.length + tagSize := by
  have schedule := Aes.isSchedule_roundKeys key size
  rw [encrypt, List.length_append, length_crypt schedule, length_tag schedule]

theorem decrypt?_encrypt :
    decrypt? key nonce associated (encrypt key nonce associated plaintext) = some plaintext := by
  have schedule := Aes.isSchedule_roundKeys key size
  have whole := length_encrypt size nonce associated plaintext
  have cut : (encrypt key nonce associated plaintext).length - tagSize =
      (crypt (Aes.roundKeys key) nonce plaintext).length := by
    rw [whole, length_crypt schedule, Nat.add_sub_cancel]
  have long : ¬(encrypt key nonce associated plaintext).length < tagSize := by omega
  simp only [decrypt?, cut, long, if_false]
  simp only [encrypt, List.take_left, List.drop_left, if_true, crypt_crypt schedule]

end Gcm

namespace EmailCipher

theorem opened_framed (cipher : EmailCipher) (address : String) {nonce ciphertext : Bytes}
    (drawn : nonce.length = Gcm.nonceSize) (long : Gcm.tagSize ≤ ciphertext.length) :
    cipher.opened address (Base64.encode Base64.standard (nonce ++ ciphertext)) =
      ((Gcm.decrypt? cipher.key nonce (Bytes.ofString address) ciphertext).bind
        Bytes.toString?).elim (.error .unopened) .ok := by
  have read : Base64.read? Base64.standard
      (Bytes.ofString (Base64.encode Base64.standard (nonce ++ ciphertext))) =
        some (nonce ++ ciphertext) := by
    rw [Base64.encode, Bytes.ofString_ofList]
    exact Base64.read?_encodeChars _ (.inl rfl) _
  have whole : ¬(nonce ++ ciphertext).length < Gcm.nonceSize + Gcm.tagSize := by
    rw [List.length_append, drawn]
    omega
  simp only [opened, read, Option.bind_eq_bind, Option.bind_some, whole, if_false,
    List.take_left' drawn, List.drop_left' drawn]
  generalize Option.bind _ Bytes.toString? = email
  cases email <;> rfl

theorem opened_sealed (cipher : EmailCipher) {nonce : Bytes} (size : Gcm.nonceSize ≤ nonce.length)
    (address email : String) :
    cipher.opened address (cipher.sealed nonce address email) = .ok email := by
  have drawn : (nonce.take Gcm.nonceSize).length = Gcm.nonceSize := by
    rw [List.length_take, Nat.min_eq_left size]
  have encrypted := Gcm.length_encrypt cipher.key_size (nonce.take Gcm.nonceSize)
    (Bytes.ofString address) (Bytes.ofString email)
  rw [sealed, opened_framed cipher address drawn (by omega), Gcm.decrypt?_encrypt cipher.key_size,
    Option.bind_some, Bytes.toString?_ofString, Option.elim_some]

end EmailCipher

end Enrolment
