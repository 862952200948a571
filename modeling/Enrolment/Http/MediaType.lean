import Enrolment.Text.Lines

set_option autoImplicit false

namespace Enrolment

structure MediaType where
  kind : List Char
  subtype : List Char
  suffix : Option (List Char)
  deriving Repr, DecidableEq

namespace MediaType

def tokenSigns : List Char := "!#$%&*+-.^_\x60|~".toList

def isTokenChar (char : Char) : Bool :=
  isAsciiLetter char || isAsciiDigit char || tokenSigns.contains char || char.toNat = 39

def isQuotable (char : Char) : Bool := char.toNat > 31 && char.toNat ≠ 127

def quotedValue? : List Char → Option (List Char)
  | [] => none
  | first :: rest =>
    let body := rest.takeWhile (· ≠ '"')
    match rest.dropWhile (· ≠ '"') with
    | _ :: rest => if isQuotable first && body.all isQuotable then some rest else none
    | [] => none

def plainValue? (chars : List Char) : Option (List Char) :=
  let rest := chars.dropWhile isTokenChar
  match rest with
  | [] => some []
  | ';' :: _ => if (chars.takeWhile isTokenChar).isEmpty then none else some rest
  | _ => none

def areParameters : Nat → List Char → Bool
  | 0, _ => false
  | fuel + 1, chars =>
    let chars := chars.dropWhile (· = ' ')
    if chars.isEmpty then true
    else
      let name := chars.takeWhile isTokenChar
      match chars.dropWhile isTokenChar with
      | '=' :: value =>
        let rest := match value with
          | '"' :: quoted => (quotedValue? quoted).map (·.dropWhile (· = ' '))
          | _ => plainValue? value
        match rest with
        | some [] => !name.isEmpty
        | some (';' :: rest) => !name.isEmpty && areParameters fuel rest
        | _ => false
      | _ => false

def cutSuffix (name : List Char) : List Char × Option (List Char) :=
  let suffix := (name.reverse.takeWhile (· ≠ '+')).reverse
  let subtype := name.take (name.length - suffix.length - 1)
  if suffix.length < name.length && !subtype.isEmpty then (subtype, some suffix) else (name, none)

def parse? (text : String) : Option MediaType :=
  let chars := text.toList
  let kind := chars.takeWhile isTokenChar
  match chars.dropWhile isTokenChar with
  | '/' :: rest =>
    let name := rest.takeWhile isTokenChar
    let (subtype, suffix) := cutSuffix name
    let found : MediaType := ⟨kind.map asciiLower, subtype.map asciiLower, suffix.map (·.map asciiLower)⟩
    if kind.isEmpty then none
    else
      match rest.dropWhile isTokenChar with
      | [] => some found
      | ';' :: parameters =>
        if !name.isEmpty && areParameters (parameters.length + 1) parameters then some found else none
      | _ => none
  | _ => none

def isJson (mediaType : MediaType) : Bool :=
  mediaType.kind = "application".toList &&
    (mediaType.subtype = "json".toList || mediaType.suffix = some "json".toList)

end MediaType

end Enrolment
