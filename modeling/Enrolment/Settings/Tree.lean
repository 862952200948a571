import Enrolment.Decimal.Reading
import Enrolment.Json.Value

set_option autoImplicit false

namespace Enrolment

inductive SettingTree
  | empty
  | boolean (value : Bool)
  | integer (value : Int)
  | real (value : Float)
  | text (value : String)
  | list (values : List SettingTree)
  | table (entries : List (String × SettingTree))

namespace SettingTree

instance : Inhabited SettingTree := ⟨empty⟩

def ofNumber : Json.Number → SettingTree
  | .natural value => if value < UInt64.size / 2 then integer value else real (Float.ofNat value)
  | .negative value => integer (-value)
  | .real value => real value

mutual

def ofJson : Json.Value → SettingTree
  | .null => empty
  | .boolean value => boolean value
  | .number value => ofNumber value
  | .text value => text value
  | .list values => list (ofElements values)
  | .object members => table (ofMembers members)

def ofElements : List Json.Value → List SettingTree
  | [] => []
  | value :: values => ofJson value :: ofElements values

def ofMembers : List (String × Json.Value) → List (String × SettingTree)
  | [] => []
  | (name, value) :: members => (name, ofJson value) :: ofMembers members

end

def entries : SettingTree → List (String × SettingTree)
  | table entries => entries
  | _ => []

def elements : SettingTree → List SettingTree
  | list values => values
  | _ => []

def entry? (tree : SettingTree) (name : String) : Option SettingTree := tree.entries.lookup name

def put (name : String) (value : SettingTree) : List (String × SettingTree) → List (String × SettingTree)
  | [] => [(name, value)]
  | first :: rest => if first.1 = name then (name, value) :: rest else first :: put name value rest

mutual

-- Sets an entry. A table is merged into what is there already.
def assign (name : String) (tree : SettingTree) : SettingTree → SettingTree
  | table incoming =>
    table (put name (merge ((tree.entry? name).getD (table [])) incoming) tree.entries)
  | value => table (put name value tree.entries)

def merge (target : SettingTree) : List (String × SettingTree) → SettingTree
  | [] => target
  | (name, value) :: incoming => merge (assign name target value) incoming

end

inductive Step
  | name (name : String)
  | index (index : Nat)
  deriving Repr, DecidableEq

-- A list of at least some length, filled up with empty values.
def grow (size : Nat) (values : List SettingTree) : List SettingTree :=
  values ++ List.replicate (size - values.length) empty

-- Changes what a path leads to, and makes the tables and lists on its way.
def changeAt (change : SettingTree → SettingTree) : List Step → SettingTree → SettingTree
  | [], tree => change tree
  | .name name :: steps, tree =>
    table (put name (changeAt change steps ((tree.entry? name).getD empty)) tree.entries)
  | .index index :: steps, tree =>
    list ((grow (index + 1) tree.elements).modify index (changeAt change steps))

def setAt (steps : List Step) (value tree : SettingTree) : SettingTree :=
  match steps.getLast? with
  | none => value
  | some (.name name) => changeAt (fun parent => assign name parent value) steps.dropLast tree
  | some (.index _) => changeAt (fun _ => value) steps tree

def isNameChar (char : Char) : Bool :=
  isAsciiLetter char || isAsciiDigit char || char = ' ' || char = '_' || char = '-'

def isSpace (char : Char) : Bool := char = ' ' || char = '\t' || char = '\r' || char = '\n'

def furtherSteps? : Nat → List Char → Option (List Step)
  | _, [] => some []
  | 0, _ => none
  | fuel + 1, '.' :: rest =>
    let name := rest.takeWhile isNameChar
    if name.isEmpty then none
    else (furtherSteps? fuel (rest.dropWhile isNameChar)).map (.name (String.ofList name) :: ·)
  | fuel + 1, '[' :: rest =>
    let digits := (rest.dropWhile isSpace).takeWhile isAsciiDigit
    match Decimal.natural? (UInt64.size / 2) digits,
      ((rest.dropWhile isSpace).dropWhile isAsciiDigit).dropWhile isSpace with
    | some index, ']' :: rest => (furtherSteps? fuel rest).map (.index index :: ·)
    | _, _ => none
  | _, _ => none

def steps? (key : List Char) : Option (List Step) :=
  let name := key.takeWhile isNameChar
  if name.isEmpty then none
  else
    (furtherSteps? key.length (key.dropWhile isNameChar)).map (.name (String.ofList name) :: ·)

-- Sets the value of a key, which may be a path of names and indices; any other key is a name.
def set (key : String) (value tree : SettingTree) : SettingTree :=
  match steps? key.toList with
  | some steps => setAt steps value tree
  | none => assign key tree value

def overlay (incoming : List (String × SettingTree)) (tree : SettingTree) : SettingTree :=
  incoming.foldl (fun tree (key, value) => set key value tree) tree

end SettingTree

end Enrolment
