set_option autoImplicit false

namespace Enrolment

def isWhiteSpace (char : Char) : Bool :=
  let code := char.toNat
  (9 ≤ code && code ≤ 13) || code = 0x20 || code = 0x85 || code = 0xA0 || code = 0x1680 ||
    (0x2000 ≤ code && code ≤ 0x200A) || code = 0x2028 || code = 0x2029 || code = 0x202F ||
    code = 0x205F || code = 0x3000

def trimChars (drop : Char → Bool) (chars : List Char) : List Char :=
  ((chars.dropWhile drop).reverse.dropWhile drop).reverse

def trimBlanks (chars : List Char) : List Char := trimChars isWhiteSpace chars

def splitAt (separator : Char) : List Char → List (List Char)
  | [] => [[]]
  | char :: rest =>
    if char = separator then [] :: splitAt separator rest
    else
      match splitAt separator rest with
      | part :: parts => (char :: part) :: parts
      | [] => [[char]]

def cutAt (separator : Char) : List Char → List Char × Option (List Char)
  | [] => ([], none)
  | char :: rest =>
    if char = separator then ([], some rest)
    else
      let (before, behind) := cutAt separator rest
      (char :: before, behind)

def asciiLower (char : Char) : Char :=
  if 65 ≤ char.toNat && char.toNat ≤ 90 then Char.ofNat (char.toNat + 32) else char

def asciiUpper (char : Char) : Char :=
  if 97 ≤ char.toNat && char.toNat ≤ 122 then Char.ofNat (char.toNat - 32) else char

def lowerText (text : String) : String := String.ofList (text.toList.map asciiLower)

def isAsciiDigit (char : Char) : Bool := 48 ≤ char.toNat && char.toNat ≤ 57

def isAsciiLetter (char : Char) : Bool :=
  let code := (asciiLower char).toNat
  97 ≤ code && code ≤ 122

end Enrolment
