import Enrolment.Cipher.Aes

set_option autoImplicit false

namespace Enrolment.Gcm

def keySize : Nat := 32
def nonceSize : Nat := 12
def tagSize : Nat := 16

def counterBlock (nonce : Bytes) (counter : Nat) : Bytes := nonce ++ Bytes.ofNat 4 counter

def keystream (keys : List Bytes) (nonce : Bytes) : Nat → Nat → Bytes
  | 0, _ => []
  | blocks + 1, counter =>
    Aes.encryptWith keys (counterBlock nonce counter) ++ keystream keys nonce blocks (counter + 1)

def crypt (keys : List Bytes) (nonce text : Bytes) : Bytes :=
  Bytes.xor text (keystream keys nonce ((text.length + 15) / 16) 2)

-- The product in the field of 2^128 elements; the highest bit is the coefficient of one.
def multiplyBits (point : Nat) : Nat → Nat → Nat → Nat
  | 0, _, product => product
  | bits + 1, shifted, product =>
    let product := if point.testBit bits then product ^^^ shifted else product
    let shifted :=
      if shifted % 2 = 1 then (shifted / 2) ^^^ (0xe1 * Nat.pow 2 120) else shifted / 2
    multiplyBits point bits shifted product

def multiply (left right : Nat) : Nat := multiplyBits left 128 right 0

def padded (text : Bytes) : Bytes := text ++ List.replicate ((16 - text.length % 16) % 16) 0

def hashBlocks (point : Nat) : Nat → Bytes → Nat → Nat
  | 0, _, hash => hash
  | blocks + 1, text, hash =>
    hashBlocks point blocks (text.drop 16) (multiply (hash ^^^ Bytes.toNat (text.take 16)) point)

def tag (keys : List Bytes) (nonce associated ciphertext : Bytes) : Bytes :=
  let point := Bytes.toNat (Aes.encryptWith keys (List.replicate 16 0))
  let lengths := Bytes.ofNat 8 (8 * associated.length) ++ Bytes.ofNat 8 (8 * ciphertext.length)
  let text := padded associated ++ padded ciphertext ++ lengths
  let hash := hashBlocks point (text.length / 16) text 0
  Bytes.xor (Bytes.ofNat 16 hash) (Aes.encryptWith keys (counterBlock nonce 1))

def encrypt (key nonce associated plaintext : Bytes) : Bytes :=
  let keys := Aes.roundKeys key
  let ciphertext := crypt keys nonce plaintext
  ciphertext ++ tag keys nonce associated ciphertext

def decrypt? (key nonce associated sealed : Bytes) : Option Bytes :=
  let keys := Aes.roundKeys key
  let ciphertext := sealed.take (sealed.length - tagSize)
  if sealed.length < tagSize then none
  else if sealed.drop (sealed.length - tagSize) = tag keys nonce associated ciphertext then
    some (crypt keys nonce ciphertext)
  else none

end Enrolment.Gcm
