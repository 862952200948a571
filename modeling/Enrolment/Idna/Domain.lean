import Enrolment.Idna.Composition
import Enrolment.Idna.DirectionTable
import Enrolment.Idna.MappingTable
import Enrolment.Idna.Punycode

set_option autoImplicit false

namespace Enrolment.Idna

-- What a character is mapped to; `none` if it is not allowed. ASCII letters become small and other
-- ASCII characters stand for themselves.
def mapChar (char : Char) : Option (List Char) :=
  let code := char.toNat
  if code < 128 then some [asciiLower char]
  else if kept.get.contains code then some [char]
  else if dropped.get.contains code then some []
  else (replacements.get.lookup code).map (·.map Char.ofNat)

def isKept (char : Char) : Bool :=
  if char.toNat < 128 then !(65 ≤ char.toNat && char.toNat ≤ 90)
  else kept.get.contains char.toNat

def mapDomain (domain : List Char) : List Char × Bool :=
  let mapped := domain.map mapChar
  let chars := (domain.zip mapped).flatMap fun (char, image) => image.getD [char]
  (compose chars, mapped.all Option.isSome)

inductive Direction
  | leftToRight
  | rightToLeft
  | arabicNumber
  | europeanNumber
  | neutral
  | mark
  | excluded
  deriving DecidableEq

def direction (char : Char) : Direction :=
  match (directions.get.lookup char.toNat).bind List.head? with
  | none => .leftToRight
  | some 1 => .rightToLeft
  | some 2 => .arabicNumber
  | some 3 => .europeanNumber
  | some 4 => .neutral
  | some 5 => .mark
  | some _ => .excluded

def hasRightToLeft (label : List Char) : Bool :=
  label.any fun char => direction char = .rightToLeft || direction char = .arabicNumber

def endDirection? (label : List Char) : Option Direction :=
  (label.reverse.dropWhile (direction · = .mark)).head?.map direction

def followsDirections (label : List Char) : Bool :=
  match label with
  | [] => true
  | first :: rest =>
    let inner := rest.map direction
    match direction first with
    | .leftToRight =>
      inner.all (fun kind => kind = .leftToRight || kind = .europeanNumber || kind = .neutral ||
        kind = .mark) &&
      (match endDirection? label with
        | some kind => kind = .leftToRight || kind = .europeanNumber
        | none => true)
    | .rightToLeft =>
      inner.all (fun kind => kind = .rightToLeft || kind = .arabicNumber ||
        kind = .europeanNumber || kind = .neutral || kind = .mark) &&
      (match endDirection? label with
        | some kind => kind = .rightToLeft || kind = .europeanNumber || kind = .arabicNumber
        | none => false) &&
      !(inner.contains .europeanNumber && inner.contains .arabicNumber)
    | _ => false

def isValidLabel (label : List Char) : Bool :=
  match label with
  | [] => true
  | first :: _ => !marks.get.contains first.toNat && label.all isKept

def punycodeMark : List Char := ['x', 'n', '-', '-']

structure Label where
  text : List Char
  valid : Bool
  rightToLeft : Bool

def readLabel (label : List Char) : Label :=
  if label.take 4 = punycodeMark then
    match unpunycode? (label.drop 4) with
    | some text => ⟨text, compose text = text && isValidLabel text, hasRightToLeft text⟩
    | none => ⟨[], false, true⟩
  else ⟨label, isValidLabel label, hasRightToLeft label⟩

def isAscii (label : List Char) : Bool := label.all (·.toNat < 128)

def writeLabel (label : List Char) : Option (List Char) :=
  if isAscii label then some label else (punycode? label).map (punycodeMark ++ ·)

def joinLabels (labels : List (List Char)) : List Char := ['.'].intercalate labels

-- Names of small letters and digits alone, no label of which starts in the way of Punycode, are
-- ASCII forms already.
def isPlain (domain : List Char) : Bool :=
  !domain.isEmpty && domain.all (fun char =>
    char = '.' || isAsciiDigit char || (97 ≤ char.toNat && char.toNat ≤ 122))

def toAscii? (domain : List Char) : Option (List Char) :=
  if isPlain domain then some domain
  else
    let (mapped, allowed) := mapDomain domain
    let labels := (splitAt '.' mapped).map readLabel
    let directed := labels.any Label.rightToLeft
    if allowed && labels.all (fun label =>
        label.valid && (!directed || followsDirections label.text)) then
      (labels.mapM fun label => writeLabel label.text).map joinLabels
    else none

end Enrolment.Idna
