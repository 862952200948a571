import Enrolment.Settings.Tree

set_option autoImplicit false

namespace Enrolment.Toml

abbrev Reader (α : Type) := List Char → Option (α × List Char)

def isSpace (char : Char) : Bool := char = ' ' || char = '\t'

def skipSpace (chars : List Char) : List Char := chars.dropWhile isSpace

-- Text may hold tabs, but no other control characters.
def isPrintable (char : Char) : Bool := char = '\t' || (32 ≤ char.toNat && char.toNat ≠ 127)

def skipComment (chars : List Char) : List Char :=
  match chars with
  | '#' :: rest => rest.dropWhile fun char => char = '\t' || 32 ≤ char.toNat
  | _ => chars

def lineEnd? (chars : List Char) : Option (List Char) :=
  match skipComment (skipSpace chars) with
  | [] => some []
  | '\n' :: rest => some rest
  | _ => none

def skipLines : Nat → List Char → List Char
  | 0, chars => chars
  | fuel + 1, chars =>
    match skipComment (skipSpace chars) with
    | '\n' :: rest => skipLines fuel rest
    | rest => rest

def codePoint? (size : Nat) : Reader Char := fun chars => do
  let digits ← (chars.take size).mapM Hex.digit?
  let code := digits.foldl (fun value digit => value * 16 + digit) 0
  if digits.length = size && code.isValidChar then some (Char.ofNat code, chars.drop size) else none

def escape? : Reader Char
  | 'b' :: rest => some ('\x08', rest)
  | 't' :: rest => some ('\t', rest)
  | 'n' :: rest => some ('\n', rest)
  | 'f' :: rest => some ('\x0c', rest)
  | 'r' :: rest => some ('\r', rest)
  | '"' :: rest => some ('"', rest)
  | '\\' :: rest => some ('\\', rest)
  | 'u' :: rest => codePoint? 4 rest
  | 'U' :: rest => codePoint? 8 rest
  | _ => none

def endsLine (chars : List Char) : Bool := (skipSpace chars).head? = some '\n'

def stringRest (quote : Char) (long : Bool) : Nat → List Char → Reader String
  | 0, _, _ => none
  | _, _, [] => none
  | fuel + 1, read, char :: rest =>
    if char = quote then
      if !long then some (String.ofList read.reverse, rest)
      else if rest.take 2 = [quote, quote] && (rest.drop 2).head? ≠ some quote then
        some (String.ofList read.reverse, rest.drop 2)
      else stringRest quote long fuel (quote :: read) rest
    else if char = '\\' && quote = '"' then
      if long && endsLine rest then
        stringRest quote long fuel read (rest.dropWhile fun next => isSpace next || next = '\n')
      else
        match escape? rest with
        | some (char, rest) => stringRest quote long fuel (char :: read) rest
        | none => none
    else if isPrintable char || (char = '\n' && long) then
      stringRest quote long fuel (char :: read) rest
    else none

def shortString? (quote : Char) : Reader String := fun chars =>
  stringRest quote false (chars.length + 1) [] chars

def longString? (quote : Char) : Reader String := fun chars =>
  let chars := if chars.head? = some '\n' then chars.drop 1 else chars
  stringRest quote true (chars.length + 1) [] chars

def joined? (isDigit : Char → Bool) (chars : List Char) : Option (List Char) :=
  let groups := splitAt '_' chars
  if groups.all fun group => !group.isEmpty && group.all isDigit then some groups.flatten else none

def unsigned (chars : List Char) : List Char :=
  match chars with
  | '+' :: rest => rest
  | '-' :: rest => rest
  | _ => chars

def plainDigits? (chars : List Char) : Option (List Char) := do
  let digits ← joined? isAsciiDigit chars
  if digits.length > 1 && digits.head? = some '0' then none else some digits

def basedInteger? (base : Nat) (chars : List Char) : Option Int := do
  let digits ← joined? (fun char => (Hex.digit? char).any (· < base)) chars
  let value := (digits.filterMap Hex.digit?).foldl (fun value digit => value * base + digit) 0
  if value < UInt64.size / 2 then some value else none

def integer? (chars : List Char) : Option Int :=
  match chars with
  | '0' :: 'x' :: rest => basedInteger? 16 rest
  | '0' :: 'o' :: rest => basedInteger? 8 rest
  | '0' :: 'b' :: rest => basedInteger? 2 rest
  | _ => do
    let digits ← plainDigits? (unsigned chars)
    Decimal.integer? (chars.take (chars.length - (unsigned chars).length) ++ digits)

def real? (chars : List Char) : Option Float := do
  let sign := chars.take (chars.length - (unsigned chars).length)
  let isExponent (char : Char) : Bool := char = 'e' || char = 'E'
  let mantissa := (unsigned chars).takeWhile (!isExponent ·)
  let exponent := (unsigned chars).dropWhile (!isExponent ·)
  let (whole, fraction) := cutAt '.' mantissa
  let whole ← plainDigits? whole
  let fraction ← match fraction with
    | some digits => (joined? isAsciiDigit digits).map ('.' :: ·)
    | none => some []
  let exponent ← match exponent with
    | mark :: digits =>
      (joined? isAsciiDigit (unsigned digits)).map fun joined =>
        mark :: digits.take (digits.length - (unsigned digits).length) ++ joined
    | [] => some []
  let value ← Decimal.double? (sign ++ whole ++ fraction ++ exponent)
  if value.isFinite then some value else none

def fits (pattern : String) (chars : List Char) : Bool :=
  chars.length = pattern.length &&
    (chars.zip pattern.toList).all fun (char, sign) =>
      if sign = '0' then isAsciiDigit char else char = sign

def isTime (chars : List Char) : Bool :=
  let fraction := chars.drop 8
  fits "00:00:00" (chars.take 8) &&
    (fraction.isEmpty || (fraction.head? = some '.' && Decimal.allDigits (fraction.drop 1)))

def isOffset (chars : List Char) : Bool := chars = ['Z'] || fits "+00:00" chars || fits "-00:00" chars

def isZonedTime (chars : List Char) : Bool :=
  let time := chars.takeWhile fun char => char ≠ 'Z' && char ≠ '+' && char ≠ '-'
  let offset := chars.drop time.length
  isTime time && (offset.isEmpty || isOffset offset)

-- Dates and times count as text.
def isDate (chars : List Char) : Bool :=
  (fits "0000-00-00" (chars.take 10) &&
    (chars.length = 10 || (chars[10]? = some 'T' && isZonedTime (chars.drop 11)))) ||
  isTime chars

def word? (chars : List Char) : Option SettingTree :=
  let name := String.ofList chars
  if name = "true" then some (.boolean true)
  else if name = "false" then some (.boolean false)
  else if ["inf", "+inf", "-inf", "nan", "+nan", "-nan"].contains name then
    (Decimal.double? chars).map .real
  else if isDate chars then some (.text name)
  else ((integer? chars).map .integer) <|> ((real? chars).map .real)

def isWordChar (char : Char) : Bool :=
  isAsciiLetter char || isAsciiDigit char || "_+-.:".toList.contains char

def isKeyChar (char : Char) : Bool :=
  isAsciiLetter char || isAsciiDigit char || char = '_' || char = '-'

def name? : Reader String
  | '"' :: rest => shortString? '"' rest
  | '\'' :: rest => shortString? '\'' rest
  | chars =>
    let name := chars.takeWhile isKeyChar
    if name.isEmpty then none else some (String.ofList name, chars.dropWhile isKeyChar)

def key? : Nat → Reader (List String)
  | 0, _ => none
  | fuel + 1, chars => do
    let (name, rest) ← name? (skipSpace chars)
    match skipSpace rest with
    | '.' :: rest =>
      let (names, rest) ← key? fuel rest
      return (name :: names, rest)
    | rest => return ([name], rest)

def insert? (value : SettingTree) : List String → SettingTree → Option SettingTree
  | [], _ => none
  | [name], .table entries =>
    if (entries.lookup name).isSome then none else some (.table (entries ++ [(name, value)]))
  | name :: names, .table entries => do
    let inner ← insert? value names ((entries.lookup name).getD (.table []))
    return .table (SettingTree.put name inner entries)
  | _, _ => none

mutual

def value? : Nat → Reader SettingTree
  | 0, _ => none
  | fuel + 1, chars =>
    match skipSpace chars with
    | '"' :: '"' :: '"' :: rest => (longString? '"' rest).map fun (text, rest) => (.text text, rest)
    | '\'' :: '\'' :: '\'' :: rest =>
      (longString? '\'' rest).map fun (text, rest) => (.text text, rest)
    | '"' :: rest => (shortString? '"' rest).map fun (text, rest) => (.text text, rest)
    | '\'' :: rest => (shortString? '\'' rest).map fun (text, rest) => (.text text, rest)
    | '[' :: rest => elements? fuel [] rest
    | char :: rest =>
      if char = Char.ofNat 0x7b then
        match skipSpace rest with
        | next :: rest =>
          if next = Char.ofNat 0x7d then some (.table [], rest)
          else members? fuel (.table []) (next :: rest)
        | [] => none
      else
        let word := (char :: rest).takeWhile isWordChar
        (word? word).map fun value => (value, (char :: rest).dropWhile isWordChar)
    | [] => none

def elements? : Nat → List SettingTree → Reader SettingTree
  | 0, _, _ => none
  | fuel + 1, read, chars =>
    match skipLines chars.length chars with
    | ']' :: rest => some (.list read.reverse, rest)
    | chars => do
      let (value, rest) ← value? fuel chars
      match skipLines rest.length rest with
      | ',' :: rest => elements? fuel (value :: read) rest
      | ']' :: rest => return (.list (value :: read).reverse, rest)
      | _ => none

def members? : Nat → SettingTree → Reader SettingTree
  | 0, _, _ => none
  | fuel + 1, read, chars => do
    let (names, rest) ← key? chars.length chars
    match rest with
    | '=' :: rest =>
      let (value, rest) ← value? fuel rest
      let read ← insert? value names read
      match skipSpace rest with
      | ',' :: rest => members? fuel read rest
      | next :: rest => if next = Char.ofNat 0x7d then some (read, rest) else none
      | [] => none
    | _ => none

end

inductive Statement
  -- What follows belongs to a table, or to a further table of a list.
  | header (names : List String) (isListed : Bool)
  | pair (names : List String) (value : SettingTree)

def header? : Reader Statement
  | '[' :: '[' :: rest => do
    let (names, rest) ← key? rest.length rest
    if rest.take 2 = [']', ']'] then return (.header names true, rest.drop 2) else none
  | '[' :: rest => do
    let (names, rest) ← key? rest.length rest
    if rest.head? = some ']' then return (.header names false, rest.drop 1) else none
  | _ => none

def statement? : Reader Statement := fun chars =>
  if chars.head? = some '[' then header? chars
  else do
    let (names, rest) ← key? chars.length chars
    match rest with
    | '=' :: rest =>
      let (value, rest) ← value? rest.length rest
      return (.pair names value, rest)
    | _ => none

def statements? : Nat → List Char → Option (List Statement)
  | 0, _ => none
  | fuel + 1, chars =>
    match skipLines chars.length chars with
    | [] => some []
    | chars => do
      let (statement, rest) ← statement? chars
      return statement :: (← statements? fuel (← lineEnd? rest))

-- Applies a change to a table, or to the last table of a list.
def inLast? (change : SettingTree → Option SettingTree) : SettingTree → Option SettingTree
  | .table entries => change (.table entries)
  | .list values => do
    let last ← values.getLast?
    return .list (values.dropLast ++ [← change last])
  | _ => none

def within? (change : SettingTree → Option SettingTree) :
    List String → SettingTree → Option SettingTree
  | [], tree => inLast? change tree
  | name :: names, tree =>
    inLast? (fun parent => do
      let inner ← within? change names ((parent.entry? name).getD (.table []))
      return .table (SettingTree.put name inner parent.entries)) tree

structure Draft where
  root : SettingTree := .table []
  -- The table that keys are set in.
  current : List String := []
  -- The tables that have had their header.
  headers : List (List String) := []
  -- The lists that tables are added to.
  lists : List (List String) := []

def Draft.startTable? (draft : Draft) (names : List String) : Option Draft := do
  if draft.headers.contains names || draft.lists.contains names then none
  let root ← within? some names draft.root
  return { draft with root, current := names, headers := names :: draft.headers }

-- Adds a table to a list, and with it forgets the headers within the one before.
def Draft.startListed? (draft : Draft) (names : List String) : Option Draft := do
  let name ← names.getLast?
  let root ← within? (fun parent =>
    match parent.entry? name with
    | none => some (.table (SettingTree.put name (.list [.table []]) parent.entries))
    | some (.list values) =>
      if draft.lists.contains names then
        some (.table (SettingTree.put name (.list (values ++ [.table []])) parent.entries))
      else none
    | some _ => none) names.dropLast draft.root
  return {
    root
    current := names
    headers := draft.headers.filter fun header => header.take names.length ≠ names
    lists := names :: draft.lists.filter fun list => list.take names.length ≠ names }

def Draft.extend? (draft : Draft) : Statement → Option Draft
  | .header names false => draft.startTable? names
  | .header names true => draft.startListed? names
  | .pair names value => do
    let root ← within? (insert? value names) draft.current draft.root
    return { draft with root }

def unixLines : List Char → List Char
  | '\r' :: '\n' :: rest => '\n' :: unixLines rest
  | char :: rest => char :: unixLines rest
  | [] => []

def parse? (text : String) : Option SettingTree := do
  let chars := unixLines text.toList
  let statements ← statements? (chars.length + 1) chars
  let draft ← statements.foldlM Draft.extend? {}
  return draft.root

end Enrolment.Toml
