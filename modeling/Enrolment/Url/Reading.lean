import Enrolment.Url.Basic

set_option autoImplicit false

namespace Enrolment.Url

def isReservedInFragment (char : Char) : Bool := isControl char || " \"<>\x60".toList.contains char

def isReservedInPath (char : Char) : Bool :=
  isReservedInFragment char || "#?\x7b\x7d".toList.contains char

def isReservedInUser (char : Char) : Bool :=
  isReservedInPath char || "/:;=@[\\]^|".toList.contains char

def isReservedInQuery (kind : SchemeKind) (char : Char) : Bool :=
  isControl char || " \"#<>".toList.contains char || (kind ≠ .other && char.toNat = 39)

def isSlash (kind : SchemeKind) (char : Char) : Bool :=
  char = '/' || (char = '\\' && kind ≠ .other)

def endsPath (char : Char) : Bool := char = '?' || char = '#'

def splitSlashes (kind : SchemeKind) (chars : List Char) : List (List Char) :=
  splitAt '/' (chars.map fun char => if isSlash kind char then '/' else char)

def plainDots : List Char → List Char
  | '%' :: '2' :: letter :: rest =>
    if asciiLower letter = 'e' then '.' :: plainDots rest else '%' :: '2' :: letter :: plainDots rest
  | char :: rest => char :: plainDots rest
  | [] => []

-- Walks along segments: a dot stays where it is, two dots go one up. The walked segments are held
-- in reverse.
def walk : List (List Char) → List (List Char) → List (List Char)
  | walked, [] => walked.reverse
  | walked, segment :: rest =>
    let up := plainDots segment = ['.', '.']
    let stay := plainDots segment = ['.']
    let walked := if up then walked.tail else walked
    if up || stay then walk (if rest.isEmpty then [] :: walked else walked) rest
    else walk (segment :: walked) rest

def readSegments (kind : SchemeKind) (chars : List Char) : List (List Char) :=
  walk [] ((splitSlashes kind chars).map (Percent.encode isReservedInPath))

def readPath (kind : SchemeKind) (chars : List Char) : List (List Char) :=
  match chars with
  | [] => if kind = .other then [] else [[]]
  | char :: rest =>
    if isSlash kind char then readSegments kind rest else readSegments kind chars

-- A local path has no empty segments in front.
def readFilePath (chars : List Char) : List (List Char) :=
  let segments := (readPath .file chars).dropWhile (·.isEmpty)
  if segments.isEmpty then [[]] else segments

def endsAuthority (kind : SchemeKind) (char : Char) : Bool :=
  endsPath char || isSlash kind char

def readCredentials (chars : List Char) : List Char × List Char :=
  let (user, password) := cutAt ':' chars
  (Percent.encode isReservedInUser user, Percent.encode isReservedInUser (password.getD []))

-- The host at the start of a text, and what follows it. A colon in brackets belongs to it.
def cutHost : Bool → List Char → List Char × List Char
  | _, [] => ([], [])
  | bracketed, char :: rest =>
    if char = ':' && !bracketed then ([], char :: rest)
    else
      let bracketed := if char = '[' then true else if char = ']' then false else bracketed
      let (host, rest) := cutHost bracketed rest
      (char :: host, rest)

def readPort (digits : List Char) : Except Fault (Option Nat) :=
  let value := digits.foldl (fun value digit => value * 10 + (digit.toNat - 48)) 0
  if !digits.all isAsciiDigit then .error .port
  else if value > 65535 then .error .port
  else .ok (if digits.isEmpty then none else some value)

def portBehind : List Char → Except Fault (Option Nat)
  | ':' :: digits => readPort digits
  | _ => .ok none

def readAuthority (scheme chars : List Char) : Except Fault Authority := do
  let kind := schemeKind scheme
  let before := (chars.reverse.dropWhile (· ≠ '@')).reverse
  let place := chars.drop before.length
  if before.length = 1 && place.isEmpty then throw .emptyHost
  let (user, password) := readCredentials before.dropLast
  let (hostText, portText) := cutHost false place
  if hostText.isEmpty && (kind = .web || !portText.isEmpty) then throw .emptyHost
  let host ← if kind = .web then readHost hostText else readOpaqueHost hostText
  if hostText.isEmpty && !(user.isEmpty && password.isEmpty) then throw .emptyHost
  let port ← portBehind portText
  return {
    user, password
    host := if hostText.isEmpty then none else some host
    port := if port = defaultPort? scheme then none else port }

-- The host of a local file; this machine is none.
def readFileHost (chars : List Char) : Except Fault Authority := do
  if chars.isEmpty then return {}
  let host ← readHost chars
  return { host := if host = .domain "localhost".toList then none else some host }

def isSchemeChar (char : Char) : Bool :=
  isAsciiLetter char || isAsciiDigit char || char = '+' || char = '-' || char = '.'

def cutScheme? (chars : List Char) : Option (List Char × List Char) := do
  let (scheme, rest) := cutAt ':' chars
  let first ← scheme.head?
  if isAsciiLetter first && scheme.all isSchemeChar then
    return (scheme.map asciiLower, ← rest)
  else none

def readHierarchy (scheme chars : List Char) : Except Fault (Option Authority × Path) := do
  match schemeKind scheme with
  | .web =>
    let rest := chars.dropWhile (isSlash .web)
    let authority ← readAuthority scheme (rest.takeWhile (!endsAuthority .web ·))
    return (some authority,
      .segments (readPath .web (rest.dropWhile (!endsAuthority .web ·))))
  | .file =>
    match chars with
    | first :: second :: rest =>
      if isSlash .file first && isSlash .file second then
        let authority ← readFileHost (rest.takeWhile (!endsAuthority .file ·))
        return (some authority,
          .segments (readFilePath (rest.dropWhile (!endsAuthority .file ·))))
      else return (some {}, .segments (readFilePath chars))
    | _ => return (some {}, .segments (readFilePath chars))
  | .other =>
    match chars with
    | '/' :: '/' :: rest =>
      let authority ← readAuthority scheme (rest.takeWhile (!endsAuthority .other ·))
      return (some authority,
        .segments (readPath .other (rest.dropWhile (!endsAuthority .other ·))))
    | '/' :: _ => return (none, .segments (readPath .other chars))
    | _ => return (none, .undivided (Percent.encode isControl chars))

def isLineBreak (char : Char) : Bool := char = '\t' || char = '\n' || char = '\r'

def cutTail (chars : List Char) : List Char × Option (List Char) × Option (List Char) :=
  let (rest, fragment) := cutAt '#' chars
  let (rest, query) := cutAt '?' rest
  (rest, query, fragment)

def read (chars : List Char) : Except Fault Url := do
  let trimmed := trimChars (fun char => char.toNat ≤ 32) chars
  match cutScheme? (trimmed.filter (!isLineBreak ·)) with
  | none => throw .relative
  | some (scheme, rest) =>
    let (rest, query, fragment) := cutTail rest
    let (authority, path) ← readHierarchy scheme rest
    return {
      scheme, authority, path
      query := query.map (Percent.encode (isReservedInQuery (schemeKind scheme)))
      fragment := fragment.map (Percent.encode isReservedInFragment) }

def parse (text : String) : Except Fault Url := read text.toList

end Enrolment.Url
