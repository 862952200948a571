import Enrolment.Settings.Basic
import Enrolment.Settings.Tree

set_option autoImplicit false

namespace Enrolment.Settings

inductive Fault
  -- A value of the wrong kind under a key.
  | mistyped (key found wanted : String) (origin : Option String)
  | missing (field : String)
  -- A value that is no section.
  | noSection (found title : String)
  | shortSection (title : String) (fields size : Nat)
  | unknownVariant (type name : String)
  | noVariant (type : String)
  | badUrl (fault : Url.Fault) (text : String)
  | limiter (fault : LimiterFault Float)
  | unparsable
  | unknownFormat (path : String)
  | notFound (path : String)

namespace Fault

def message : Fault → String
  | mistyped key found wanted origin =>
    s!"invalid type: {found}, expected {wanted} for key \x60{key}\x60" ++
      ((origin.map (" in " ++ ·)).getD "")
  | missing field => s!"missing field \x60{field}\x60"
  | noSection found title => s!"invalid type: {found}, expected struct {title}"
  | shortSection title fields size =>
    s!"invalid length {size}, expected struct {title} with {fields} elements"
  | unknownVariant type name => s!"enum {type} does not have variant constructor {name}"
  | noVariant type =>
    s!"value of enum {type} should be represented by either string or table with exactly one key"
  | badUrl fault text => fault.message ++ ": " ++ Quoted.encode text
  | limiter fault => fault.message
  | unparsable => "unparsable settings"
  | unknownFormat path =>
    s!"configuration file \"{path}\" is not of a registered file format"
  | notFound path => s!"configuration file \"{path}\" not found"

def within (place : String) : Fault → Fault
  | mistyped key found wanted origin =>
    let dot := if key.isEmpty || key.toList.head? = some '[' then "" else "."
    mistyped (place ++ dot ++ key) found wanted origin
  | fault => fault

end Fault

abbrev Reader (α : Type) := SettingTree → Except Fault α

def found : SettingTree → String
  | .empty => "unit value"
  | .boolean value => s!"boolean \x60{value}\x60"
  | .integer value => s!"64-bit integer \x60{value}\x60"
  | .real value => "floating point \x60" ++ Decimal.text value ++ "\x60"
  | .text value => "string " ++ Quoted.encode value
  | .list _ => "sequence"
  | .table _ => "map"

def mistyped {α : Type} (wanted : String) (tree : SettingTree) : Except Fault α :=
  .error (.mistyped "" (found tree) wanted none)

def text : Reader String
  | .text value => .ok value
  | .boolean value => .ok (toString value)
  | .integer value => .ok (toString value)
  | .real value => .ok (Decimal.text value)
  | tree => mistyped "a string" tree

def word? (text : String) : Option Bool :=
  let name := lowerText text
  if ["true", "on", "yes"].contains name then some true
  else if ["false", "off", "no"].contains name then some false
  else none

def boolean : Reader Bool
  | .boolean value => .ok value
  | .integer value => .ok (value ≠ 0)
  | .real value => .ok (value != 0)
  | .text value =>
    match word? value with
    | some answer => .ok answer
    | none =>
      if value = "1" then .ok true
      else if value = "0" then .ok false
      else mistyped "a boolean" (.text (lowerText value))
  | tree => mistyped "a boolean" tree

def real : Reader Float
  | .real value => .ok value
  | .integer value => .ok (if value < 0 then -Float.ofNat value.natAbs else Float.ofNat value.toNat)
  | .boolean value => .ok (if value then 1 else 0)
  | .text value =>
    match word? value, Decimal.double? value.toList with
    | some answer, _ => .ok (if answer then 1 else 0)
    | none, some number => .ok number
    | none, none => mistyped "a floating point" (.text value)
  | tree => mistyped "a floating point" tree

-- The nearest integer, of two the one further from zero; at least zero and of 64 bits.
def rounded (value : Float) : Nat := value.round.toUInt64.toNat

def unsigned : Reader Nat
  | .integer value =>
    if value < 0 then mistyped "an unsigned 64 bit or less integer" (.integer value)
    else .ok value.toNat
  | .real value => .ok (rounded value)
  | .boolean value => .ok value.toNat
  | .text value =>
    match word? value, Decimal.natural? UInt64.size value.toList with
    | some answer, _ => .ok answer.toNat
    | none, some number => .ok number
    | none, none => mistyped "an integer" (.text value)
  | tree => mistyped "an integer" tree

-- An integer of which only the low bits count.
def natural (bits : Nat) : Reader Nat := fun tree => do return (← unsigned tree) % Nat.pow 2 bits

def optional {α : Type} (reader : Reader α) : Reader (Option α)
  | .empty => .ok none
  | tree => some <$> reader tree

def variant {α : Type} (type : String) (ofName? : String → Option α) : Reader α := fun tree =>
  let named (name : String) : Except Fault α :=
    match ofName? name with
    | some value => .ok value
    | none => .error (.unknownVariant type name)
  match tree with
  | .text name => named name
  | .table [(name, _)] => named name
  | _ => .error (.noVariant type)

def url : Reader Url := fun tree => do
  let value ← text tree
  (Url.parse value).mapError (.badUrl · value)

structure Field (δ : Type) where
  name : String
  read : Reader (δ → δ)
  isOptional : Bool

namespace Field

variable {α δ : Type}

def required (name : String) (reader : Reader α) (set : α → δ → δ) : Field δ :=
  ⟨name, fun tree => set <$> reader tree, false⟩

def optional (name : String) (reader : Reader α) (set : Option α → δ → δ) : Field δ :=
  ⟨name, fun tree => set <$> Settings.optional reader tree, true⟩

end Field

variable {δ : Type}

-- Sets the fields that a table has, before any that it lacks is missed.
def ofEntries (fields : List (Field δ)) (entries : List (String × SettingTree)) (draft : δ) :
    Except Fault δ := do
  let draft ← fields.foldlM (fun draft field =>
    match entries.lookup field.name with
    | some tree => do return (← (field.read tree).mapError (.within field.name)) draft
    | none => return draft) draft
  match fields.find? fun field => !field.isOptional && (entries.lookup field.name).isNone with
  | some field => throw (.missing field.name)
  | none => return draft

-- A list has all fields; what follows them does not count.
def ofPositions (title : String) (fields : List (Field δ)) (values : List SettingTree) (draft : δ) :
    Except Fault δ := do
  let draft ← (fields.zip values).zipIdx.foldlM (fun draft ((field, tree), index) => do
    return (← (field.read tree).mapError (.within s!"[{index}]")) draft) draft
  if values.length < fields.length then
    throw (.shortSection title fields.length values.length)
  else return draft

def readSection (title : String) (fields : List (Field δ)) (draft : δ) : Reader δ
  | .table entries => ofEntries fields entries draft
  | .list values => ofPositions title fields values draft
  | .integer value => .error (.noSection s!"integer \x60{value}\x60" title)
  | .real value => .error (.noSection ("floating point \x60" ++ Json.Value.realText value ++ "\x60") title)
  | tree => .error (.noSection (found tree) title)

end Enrolment.Settings
