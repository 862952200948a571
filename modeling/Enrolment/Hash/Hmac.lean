import Enrolment.Hash.Sha2

set_option autoImplicit false

namespace Enrolment

structure HashFunction where
  hash : Bytes → Bytes
  blockBytes : Nat

namespace HashFunction

def sha256 : HashFunction := ⟨Sha2.hash Sha2.sha256, 64⟩

def sha384 : HashFunction := ⟨Sha2.hash Sha2.sha384, 128⟩

def sha512 : HashFunction := ⟨Sha2.hash Sha2.sha512, 128⟩

end HashFunction

namespace Hmac

-- A key fills exactly one block: a longer secret is hashed first, a shorter one is followed by
-- zeros.
def blockKey (function : HashFunction) (secret : Bytes) : Bytes :=
  let short := if secret.length > function.blockBytes then function.hash secret else secret
  short ++ List.replicate (function.blockBytes - short.length) 0

def tag (function : HashFunction) (secret message : Bytes) : Bytes :=
  let key := blockKey function secret
  let inner := function.hash (key.map (· ^^^ 0x36) ++ message)
  function.hash (key.map (· ^^^ 0x5c) ++ inner)

end Hmac

end Enrolment
