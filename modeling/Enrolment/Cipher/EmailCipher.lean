import Enrolment.Cipher.Gcm
import Enrolment.Text.Base64
import Enrolment.Text.Lines

set_option autoImplicit false

namespace Enrolment

structure Nonce where
  bytes : Bytes
  size : bytes.length = Gcm.nonceSize

structure EmailCipher where
  key : Bytes
  key_size : key.length = Gcm.keySize

namespace EmailCipher

inductive Fault
  | invalidKey
  -- Another key, another address or a damaged text.
  | unopened
  deriving Repr, DecidableEq

def Fault.message : Fault → String
  | invalidKey => "encryption key must be 32 base64 encoded bytes"
  | unopened => "failed to open sealed value"

def ofBytes (key : Bytes) : Except Fault EmailCipher :=
  if size : key.length = Gcm.keySize then .ok ⟨key, size⟩ else .error .invalidKey

def ofText (text : String) : Except Fault EmailCipher :=
  let trimmed := String.ofList (trimBlanks text.toList)
  match Base64.read? Base64.standard (Bytes.ofString trimmed) with
  | some key => ofBytes key
  | none => .error .invalidKey

def sealed (cipher : EmailCipher) (nonce : Bytes) (address email : String) : String :=
  let nonce := nonce.take Gcm.nonceSize
  Base64.encode Base64.standard
    (nonce ++ Gcm.encrypt cipher.key nonce (Bytes.ofString address) (Bytes.ofString email))

def opened (cipher : EmailCipher) (address text : String) : Except Fault String :=
  let email : Option String := do
    let bytes ← Base64.read? Base64.standard (Bytes.ofString text)
    if bytes.length < Gcm.nonceSize + Gcm.tagSize then none
    let plaintext ← Gcm.decrypt? cipher.key (bytes.take Gcm.nonceSize) (Bytes.ofString address)
      (bytes.drop Gcm.nonceSize)
    Bytes.toString? plaintext
  match email with
  | some email => .ok email
  | none => .error .unopened

def described : String := "EmailCipher \x7b .. \x7d"

end EmailCipher

end Enrolment
