import Enrolment.Instant
import Enrolment.Text.Bytes

set_option autoImplicit false

namespace Enrolment.Ulid

def alphabet : List Char := "0123456789ABCDEFGHJKMNPQRSTVWXYZ".toList

def digits : Nat → Nat → List Char → List Char
  | 0, _, written => written
  | count + 1, value, written =>
    digits count (value / 32) (alphabet.getD (value % 32) '0' :: written)

def text (now : Instant) (entropy : Bytes) : String :=
  let random := Bytes.toNat (entropy.take 10)
  String.ofList (digits 26 (now.millis.toNat % Nat.pow 2 48 * Nat.pow 2 80 + random) [])

end Enrolment.Ulid
