import Enrolment.Idna.Domain
import Enrolment.IpAddress
import Enrolment.Text.Percent
import Enrolment.Text.Utf8

set_option autoImplicit false

namespace Enrolment.Url

inductive Fault
  | emptyHost
  | internationalName
  | port
  | ipv4
  | ipv6
  | domainCharacter
  | relative
  deriving Repr, DecidableEq

def Fault.message : Fault → String
  | emptyHost => "empty host"
  | internationalName => "invalid international domain name"
  | port => "invalid port number"
  | ipv4 => "invalid IPv4 address"
  | ipv6 => "invalid IPv6 address"
  | domainCharacter => "invalid domain character"
  | relative => "relative URL without a base"

inductive Host
  | domain (name : List Char)
  | ip (address : IpAddress)
  deriving Repr, DecidableEq

def Host.text : Host → List Char
  | domain name => name
  | ip (.v4 octets) => (IpAddress.v4Text octets).toList
  | ip (.v6 groups) => '[' :: (IpAddress.v6Text groups).toList ++ [']']

def number? (part : List Char) : Option Nat :=
  let value (base : Nat) (digits : List Char) : Option Nat := do
    let digits ← digits.mapM Hex.digit?
    if digits.all (· < base) then
      some (digits.foldl (fun value digit => value * base + digit) 0)
    else none
  match part with
  | [] => none
  | ['0'] => some 0
  | '0' :: mark :: digits =>
    if asciiLower mark = 'x' then value 16 digits else value 8 (mark :: digits)
  | _ => value 10 part

def dottedParts (host : List Char) : List (List Char) :=
  let parts := splitAt '.' host
  if parts.length > 1 && parts.getLast? = some [] then parts.dropLast else parts

def endsInNumber (host : List Char) : Bool :=
  match (dottedParts host).getLast? with
  | some last => (!last.isEmpty && last.all isAsciiDigit) || (number? last).isSome
  | none => false

-- At most four numbers, of which the last takes up the remaining bytes.
def v4? (host : List Char) : Option IpAddress := do
  let numbers ← (dottedParts host).mapM number?
  let last ← numbers.getLast?
  let first := numbers.dropLast
  if first.length > 3 || first.any (· > 255) || last ≥ Nat.pow 256 (4 - first.length) then none
  return .v4 (first ++ (Bytes.ofNat (4 - first.length) last).map UInt8.toNat)

def bracketed (host : List Char) : Except Fault Host :=
  if host.getLast? ≠ some ']' then .error .ipv6
  else
    match IpAddress.readV6 host.tail.dropLast with
    | some (groups, []) => .ok (.ip (.v6 groups))
    | _ => .error .ipv6

def isForbiddenInHost (char : Char) : Bool :=
  [0, 9, 10, 13].contains char.toNat || " #/:<>?@[\\]^|".toList.contains char

def isForbiddenInDomain (char : Char) : Bool :=
  char.toNat < 32 || char.toNat = 127 || char = '%' || isForbiddenInHost char

def readHost (host : List Char) : Except Fault Host :=
  if host.head? = some '[' then bracketed host
  else
    let decoded := Utf8.decodeReplacing (Percent.decode (Bytes.ofString (String.ofList host)))
    match Idna.toAscii? decoded with
    | none => .error .internationalName
    | some name =>
      if name.isEmpty then .error .emptyHost
      else if name.any isForbiddenInDomain then .error .domainCharacter
      else if endsInNumber name then
        match v4? name with
        | some address => .ok (.ip address)
        | none => .error .ipv4
      else .ok (.domain name)

def isControl (char : Char) : Bool := char.toNat < 32 || char.toNat = 127

def readOpaqueHost (host : List Char) : Except Fault Host :=
  if host.head? = some '[' then bracketed host
  else if host.any isForbiddenInHost then .error .domainCharacter
  else .ok (.domain (Percent.encode isControl host))

end Enrolment.Url
