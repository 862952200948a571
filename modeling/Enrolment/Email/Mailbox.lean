import Enrolment.IpAddress
import Enrolment.Idna.Domain

set_option autoImplicit false

namespace Enrolment.Mailbox

-- ASCII letters of either case, and the two characters that fold to one.
def isLetter (char : Char) : Bool :=
  isAsciiLetter char || char.toNat = 0x17F || char.toNat = 0x212A

def isAlphanumeric (char : Char) : Bool := isLetter char || isAsciiDigit char

def localSigns : List Char := ".!#$%&'*+/=?^_\x60\x7b|\x7d~-".toList

def isLocalChar (char : Char) : Bool := isAlphanumeric char || localSigns.contains char

def isLocalPart (chars : List Char) : Bool := !chars.isEmpty && chars.all isLocalChar

def isLabel (chars : List Char) : Bool :=
  chars.length ≤ 63 && chars.all (fun char => isAlphanumeric char || char = '-') &&
    (chars.head?.map isAlphanumeric).getD false && (chars.getLast?.map isAlphanumeric).getD false

def isHostName (chars : List Char) : Bool := (splitAt '.' chars).all isLabel

-- Inside brackets: hexadecimal digits, points and colons, and with them all letters and the signs
-- between the cases.
def isLiteralChar (char : Char) : Bool :=
  isAlphanumeric char || (91 ≤ char.toNat && char.toNat ≤ 96) || char = '.' || char = ':'

-- The contents of the longest bracket that ends the text, wherever it begins.
def endingLiteral? : List Char → Option (List Char)
  | [] => none
  | char :: rest =>
    if char = '[' && rest.all isLiteralChar && rest.length ≥ 2 && rest.getLast? = some ']' then
      some rest.dropLast
    else endingLiteral? rest

def isDomain (chars : List Char) : Bool :=
  isHostName chars ||
    match endingLiteral? chars with
    | some literal => (IpAddress.parse? literal).isSome
    | none => false

def parts? (chars : List Char) : Option (List Char × List Char) :=
  if chars.contains '@' then
    let domain := (chars.reverse.takeWhile (· ≠ '@')).reverse
    some (chars.take (chars.length - domain.length - 1), domain)
  else none

def isValid (email : String) : Bool :=
  match parts? email.toList with
  | none => false
  | some (localPart, domain) =>
    localPart.length ≤ 64 && domain.length ≤ 255 && isLocalPart localPart &&
      (isDomain domain ||
        match Idna.toAscii? domain with
        | some ascii => isDomain ascii
        | none => false)

end Enrolment.Mailbox
