import Enrolment.Proofs.Token.Foreign
import Mathlib.Data.List.DropRight

set_option autoImplicit false

namespace Enrolment

namespace Bytes

def trimmed (bytes : Bytes) : Bytes := bytes.rdropWhile (· == 0)

theorem trimmed_append_zeros (bytes : Bytes) (count : Nat) :
    trimmed (bytes ++ List.replicate count 0) = trimmed bytes := by
  induction count with
  | zero => simp
  | succ count ih =>
    rw [List.replicate_succ', ← List.append_assoc, trimmed,
      List.rdropWhile_concat_pos _ _ _ (by rfl)]
    exact ih

theorem exists_zeros (bytes : Bytes) :
    ∃ count, bytes = trimmed bytes ++ List.replicate count 0 := by
  refine ⟨(bytes.rtakeWhile (· == 0)).length, ?_⟩
  have zeros : bytes.rtakeWhile (· == 0) =
      List.replicate (bytes.rtakeWhile (· == 0)).length 0 := by
    apply List.eq_replicate_iff.mpr
    exact ⟨rfl, fun byte member => by simpa using List.mem_rtakeWhile_imp member⟩
  rw [← zeros, trimmed, List.rdropWhile_append_rtakeWhile]

end Bytes

namespace Hmac

open Bytes

-- The secret, or its digest if a block cannot hold it.
def condensed (function : HashFunction) (secret : Bytes) : Bytes :=
  if secret.length > function.blockBytes then function.hash secret else secret

-- What makes a key the key that it is: zeros at the end do not, since others follow them.
def essence (function : HashFunction) (secret : Bytes) : Bytes :=
  trimmed (condensed function secret)

-- What is hashed last. Its head is the key, and its rest the digest of the key and the message.
def outer (function : HashFunction) (secret message : Bytes) : Bytes :=
  let key := blockKey function secret
  key.map (· ^^^ 0x5c) ++ function.hash (key.map (· ^^^ 0x36) ++ message)

variable {function : HashFunction}

theorem blockKey_eq_condensed (secret : Bytes) :
    blockKey function secret = condensed function secret ++
      List.replicate (function.blockBytes - (condensed function secret).length) 0 :=
  rfl

theorem tag_congr {left right : Bytes} (same : blockKey function left = blockKey function right)
    (message : Bytes) : tag function left message = tag function right message := by
  simp only [tag, same]

theorem essence_append_zeros (secret : Bytes) (count : Nat)
    (short : secret.length + count ≤ function.blockBytes) :
    essence function (secret ++ List.replicate count 0) = essence function secret := by
  have padded : (secret ++ List.replicate count 0).length ≤ function.blockBytes := by simpa
  rw [essence, essence, condensed, condensed, if_neg (by omega), if_neg (by omega),
    trimmed_append_zeros]

section Blocks

variable (digests : ∀ message, (function.hash message).length ≤ function.blockBytes)
include digests

theorem length_condensed_le (secret : Bytes) :
    (condensed function secret).length ≤ function.blockBytes := by
  unfold condensed
  split
  · apply digests
  · omega

theorem length_blockKey (secret : Bytes) :
    (blockKey function secret).length = function.blockBytes := by
  have fits := length_condensed_le digests secret
  rw [blockKey_eq_condensed, List.length_append, List.length_replicate]
  omega

theorem blockKey_eq (secret : Bytes) :
    blockKey function secret = essence function secret ++
      List.replicate (function.blockBytes - (essence function secret).length) 0 := by
  have fits := length_condensed_le digests secret
  obtain ⟨count, parts⟩ := exists_zeros (condensed function secret)
  have size : (condensed function secret).length = (essence function secret).length + count := by
    simpa [essence] using congrArg List.length parts
  have zeros : function.blockBytes - (essence function secret).length =
      count + (function.blockBytes - (condensed function secret).length) := by omega
  rw [zeros, List.replicate_add, ← List.append_assoc, essence, ← parts, blockKey_eq_condensed]

theorem blockKey_eq_iff (left right : Bytes) :
    blockKey function left = blockKey function right ↔
      essence function left = essence function right := by
  rw [blockKey_eq digests left, blockKey_eq digests right]
  constructor
  · intro same
    have stripped := congrArg trimmed same
    rw [trimmed_append_zeros, trimmed_append_zeros] at stripped
    simpa only [essence, trimmed, List.rdropWhile_idempotent] using stripped
  · intro same
    rw [same]

theorem tag_eq_iff (left right message : Bytes) :
    tag function left message = tag function right message ↔
      essence function left = essence function right ∨
        outer function left message ≠ outer function right message ∧
          function.hash (outer function left message) =
            function.hash (outer function right message) := by
  constructor
  · intro collide
    by_cases same : essence function left = essence function right
    · exact .inl same
    refine .inr ⟨fun texts => same ?_, collide⟩
    -- The texts start with the keys, which are of one size and only masked.
    have sizes : ((blockKey function left).map (· ^^^ 0x5c)).length =
        ((blockKey function right).map (· ^^^ 0x5c)).length := by
      simp only [List.length_map, length_blockKey digests]
    have heads := (List.append_inj texts sizes).1
    have unmasked := List.map_injective_iff.mpr (fun _ _ => (UInt8.xor_left_inj 0x5c).mp) heads
    exact (blockKey_eq_iff digests left right).mp unmasked
  · rintro (same | ⟨-, collide⟩)
    · exact tag_congr ((blockKey_eq_iff digests left right).mpr same) message
    · exact collide

end Blocks

end Hmac

theorem Sha2.length_hash_le {width : Nat} (variant : Sha2.Variant width) (message : Bytes) :
    (Sha2.hash variant message).length ≤ variant.digestBytes :=
  List.length_take_le _ _

theorem SigningKey.shared_of_ofSecret {algorithm : Algorithm} {left right : Bytes}
    {leftKey rightKey : SigningKey} (leftMade : ofSecret algorithm left = .ok leftKey)
    (rightMade : ofSecret algorithm right = .ok rightKey) :
    ∃ function, leftKey = .shared function left ∧ rightKey = .shared function right ∧
      ∀ message, (function.hash message).length ≤ function.blockBytes := by
  unfold ofSecret at leftMade rightMade
  cases algorithm with
  | es256 | es384 => cases leftMade
  | hs256 | hs512 =>
    dsimp only at leftMade rightMade
    split at leftMade
    · cases leftMade
    split at rightMade
    · cases rightMade
    refine ⟨_, (Except.ok.inj leftMade).symm, (Except.ok.inj rightMade).symm, ?_⟩
    intro message
    exact (Sha2.length_hash_le _ message).trans (by decide)

namespace TokenService

open Token

variable (service : TokenService)

def withKey (key : SigningKey) : TokenService := { service with key }

theorem extract_withKey {left right : SigningKey}
    (same : ∀ message signature, right.verify message signature = left.verify message signature)
    (token : String) (now : Instant) :
    (service.withKey right).extract token now = (service.withKey left).extract token now := by
  simp only [extract, authenticate, withKey, same]
  rfl

theorem extract_create_shared (function : HashFunction) (left right entropy : Bytes)
    (claims : Claims) (issued now : Instant) (lower : -(2 ^ 63) ≤ issued.seconds)
    (upper : issued.seconds < 2 ^ 63) :
    (service.withKey (.shared function right)).extract
        ((service.withKey (.shared function left)).create entropy claims issued) now =
      if Hmac.tag function right (service.message claims issued) =
          Hmac.tag function left (service.message claims issued) then
        (service.withKey (.shared function left)).extract
          ((service.withKey (.shared function left)).create entropy claims issued) now
      else .error .badSignature := by
  have own : Admits (service.withKey (.shared function left))
      (service.withKey (.shared function left)) entropy claims issued := decide_eq_true rfl
  have other : Admits (service.withKey (.shared function left))
        (service.withKey (.shared function right)) entropy claims issued ↔
      Hmac.tag function right (service.message claims issued) =
        Hmac.tag function left (service.message claims issued) := decide_eq_true_iff
  have judged (secret : Bytes) := (extract_foreign (service.withKey (.shared function left))
    (service.withKey (.shared function secret)) entropy claims issued now lower upper).trans
      (if_neg (not_not.mpr rfl))
  rw [judged left, judged right, if_pos own]
  exact if_congr other rfl rfl

theorem accepted_iff_same_essence {left right : Bytes} {leftKey rightKey : SigningKey}
    (leftMade : SigningKey.ofSecret service.algorithm left = .ok leftKey)
    (rightMade : SigningKey.ofSecret service.algorithm right = .ok rightKey) :
    ∃ function, leftKey = .shared function left ∧ rightKey = .shared function right ∧
      (Hmac.essence function left = Hmac.essence function right → ∀ token now,
        (service.withKey rightKey).extract token now =
          (service.withKey leftKey).extract token now) ∧
      ∀ entropy claims issued now, -(2 ^ 63) ≤ issued.seconds → issued.seconds < 2 ^ 63 →
        (service.withKey rightKey).extract
            ((service.withKey leftKey).create entropy claims issued) now =
          if Hmac.essence function left = Hmac.essence function right ∨
              Hmac.outer function left (service.message claims issued) ≠
                Hmac.outer function right (service.message claims issued) ∧
              function.hash (Hmac.outer function left (service.message claims issued)) =
                function.hash (Hmac.outer function right (service.message claims issued)) then
            (service.withKey leftKey).extract
              ((service.withKey leftKey).create entropy claims issued) now
          else .error .badSignature := by
  obtain ⟨function, rfl, rfl, digests⟩ := SigningKey.shared_of_ofSecret leftMade rightMade
  refine ⟨function, rfl, rfl, ?_, ?_⟩
  case refine_1 =>
    intro same token now
    have keys := (Hmac.blockKey_eq_iff digests left right).mpr same
    apply service.extract_withKey
    intro message signature
    simp only [SigningKey.verify, Hmac.tag_congr keys]
  case refine_2 =>
    intro entropy claims issued now lower upper
    rw [service.extract_create_shared function left right entropy claims issued now lower upper]
    apply if_congr _ rfl rfl
    rw [eq_comm, Hmac.tag_eq_iff digests]

def brief : SigningKey := .shared .sha256 [97]

def padded : SigningKey := .shared .sha256 [97, 0]

def plain : TokenService := ⟨.hs256, brief, "waitlist", 600⟩

def plainToken : String := plain.create [] quotedClaims ⟨0, 0, by decide⟩

theorem essence_padded : Hmac.essence .sha256 [97] = Hmac.essence .sha256 [97, 0] :=
  (Hmac.essence_append_zeros [97] 1 (by decide)).symm

theorem accepted_iff_same_essence_padded :
    SigningKey.ofSecret plain.algorithm [97] = .ok brief ∧
      SigningKey.ofSecret plain.algorithm [97, 0] = .ok padded ∧
      (plain.withKey padded).extract plainToken ⟨0, 0, by decide⟩ =
        (plain.withKey brief).extract plainToken ⟨0, 0, by decide⟩ := by
  have made : SigningKey.ofSecret plain.algorithm [97] = .ok brief := rfl
  have paddedMade : SigningKey.ofSecret plain.algorithm [97, 0] = .ok padded := rfl
  obtain ⟨function, key, -, alike, -⟩ := plain.accepted_iff_same_essence made paddedMade
  obtain ⟨rfl, -⟩ := SigningKey.shared.inj key
  exact ⟨made, paddedMade, alike essence_padded _ _⟩

theorem padded_secret_accepted :
    SigningKey.ofSecret .hs256 [97] = .ok brief ∧ SigningKey.ofSecret .hs256 [97, 0] = .ok padded ∧
      ([97] : Bytes) ≠ [97, 0] ∧
      (plain.withKey brief).create [] quotedClaims ⟨0, 0, by decide⟩ = plainToken ∧
      (plain.withKey padded).extract plainToken ⟨0, 0, by decide⟩ = .ok quotedClaims := by
  refine ⟨rfl, rfl, by decide, rfl, ?_⟩
  have same : Hmac.blockKey .sha256 [97, 0] = Hmac.blockKey .sha256 [97] := by decide
  have live := plain.extract_create [] quotedClaims ⟨0, 0, by decide⟩ ⟨0, 0, by decide⟩
    (by decide) (by decide) (by rintro scheme pair ⟨⟩)
  have taken := plain.extract_create_shared .sha256 [97] [97, 0] [] quotedClaims
    ⟨0, 0, by decide⟩ ⟨0, 0, by decide⟩ (by decide) (by decide)
  rw [if_pos (Hmac.tag_congr same _)] at taken
  exact taken.trans (live.1 (by unfold IsLive; decide))

end TokenService

end Enrolment
