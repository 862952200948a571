import Enrolment.Json.Lexical

set_option autoImplicit false

namespace Enrolment.Json

-- Why a value of another shape is refused: it may itself be malformed or truncated.
def refuse (bytes : Bytes) : Fault :=
  let judge {α : Type} : Except Fault α → Fault
    | .ok _ => .mismatched
    | .error fault => fault
  match bytes with
  | [] => .truncated
  | byte :: rest =>
    if byte = 110 then judge (literal literalNull rest)
    else if byte = 116 then judge (literal literalTrue rest)
    else if byte = 102 then judge (literal literalFalse rest)
    else if byte = 34 then judge (stringAfterQuote rest)
    else if byte = 45 || isDigit byte then judge (number bytes)
    else if byte = 91 || byte = 123 then .mismatched
    else .malformed

def text : Reader String := fun bytes =>
  match skipBlank bytes with
  | 34 :: rest => stringAfterQuote rest
  | bytes => .error (refuse bytes)

def integer : Reader Int := fun bytes =>
  match skipBlank bytes with
  | [] => .error .truncated
  | byte :: rest =>
    if byte = 45 || isDigit byte then
      match number (byte :: rest) with
      | .ok (.natural value, rest) =>
        if value < UInt64.size / 2 then .ok (value, rest) else .error .mismatched
      | .ok (.negative value, rest) => .ok (-value, rest)
      | .ok (.real _, _) => .error .mismatched
      | .error fault => .error fault
    else .error (refuse (byte :: rest))

-- `null` is no value.
def optional {α : Type} (reader : Reader α) : Reader (Option α) := fun bytes =>
  match skipBlank bytes with
  | 110 :: rest => do return (none, ← literal literalNull rest)
  | bytes => do
    let (value, rest) ← reader bytes
    return (some value, rest)

def refined {α β : Type} (reader : Reader α) (convert : α → Option β) : Reader β := fun bytes => do
  let (value, rest) ← reader bytes
  match convert value with
  | some value => return (value, rest)
  | none => throw .mismatched

def nextEntry (closing : UInt8) (first : Bool) (bytes : Bytes) : Except Fault (Option Bytes) :=
  match skipBlank bytes with
  | [] => .error .truncated
  | byte :: rest =>
    if byte = closing then .ok none
    else if byte = 44 && !first then
      match skipBlank rest with
      | [] => .error .truncated
      | next :: more => if next = closing then .error .malformed else .ok (some (next :: more))
    else if first then .ok (some (byte :: rest))
    else .error .malformed

def close (closing : UInt8) (bytes : Bytes) : Except Fault Bytes :=
  match skipBlank bytes with
  | [] => .error .truncated
  | byte :: rest => if byte = closing then .ok rest else .error .malformed

def memberName (bytes : Bytes) : Except Fault (String × Bytes) :=
  match bytes with
  | 34 :: rest => stringAfterQuote rest
  | _ => .error .malformed

def colon (bytes : Bytes) : Except Fault Bytes :=
  match skipBlank bytes with
  | [] => .error .truncated
  | 58 :: rest => .ok rest
  | _ => .error .malformed

def entries {α : Type} (reader : Reader α) : Nat → List α → Bytes → Except Fault (List α × Bytes)
  | 0, _, _ => .error .truncated
  | fuel + 1, read, bytes =>
    match nextEntry 93 read.isEmpty bytes with
    | .error fault => .error fault
    | .ok none => .ok (read.reverse, bytes)
    | .ok (some bytes) =>
      match reader bytes with
      | .error fault => .error fault
      | .ok (value, rest) => entries reader fuel (value :: read) rest

def list {α : Type} (reader : Reader α) : Reader (List α) := fun bytes =>
  match skipBlank bytes with
  | 91 :: rest => do
    let (values, rest) ← entries reader (rest.length + 1) [] rest
    return (values, ← close 93 rest)
  | bytes => .error (refuse bytes)

structure Field (δ : Type) where
  name : String
  -- Reads the field into the draft.
  read : Reader (δ → δ)
  -- What a draft becomes when an object lacks the field; a field without it is required.
  absent : Option (δ → δ)
  -- The same for a list that ends before the field.
  cut : Option (δ → δ)

namespace Field

variable {α δ : Type}

def required (name : String) (reader : Reader α) (set : α → δ → δ) : Field δ where
  name := name
  read := fun bytes => do
    let (value, rest) ← reader bytes
    return (set value, rest)
  absent := none
  cut := none

def defaulted (name : String) (reader : Reader α) (set : α → δ → δ) : Field δ :=
  { required name reader set with absent := some id, cut := some id }

def optional (name : String) (reader : Reader α) (set : Option α → δ → δ) : Field δ :=
  { required name (Json.optional reader) set with absent := some (set none) }

end Field

variable {δ : Type}

-- Fills in what an object left out, in the order of the fields.
def fillAbsent (seen : List String) : List (Field δ) → δ → Except Fault δ
  | [], draft => .ok draft
  | field :: fields, draft =>
    if seen.contains field.name then fillAbsent seen fields draft
    else
      match field.absent with
      | some fill => fillAbsent seen fields (fill draft)
      | none => .error .mismatched

def members (fields : List (Field δ)) :
    Nat → Bool → List String → δ → Bytes → Except Fault (δ × Bytes)
  | 0, _, _, _, _ => .error .truncated
  | fuel + 1, first, seen, draft, bytes => do
    match ← nextEntry 125 first bytes with
    | none => return (← fillAbsent seen fields draft, bytes)
    | some bytes =>
      let (name, rest) ← memberName bytes
      match fields.find? (fun field => field.name == name) with
      | some field =>
        if seen.contains name then throw .mismatched
        let (set, rest) ← field.read (← colon rest)
        members fields fuel false (name :: seen) (set draft) rest
      | none =>
        let rest ← skipValue (← colon rest)
        members fields fuel false seen draft rest

def positions : List (Field δ) → Bool → δ → Bytes → Except Fault (δ × Bytes)
  | [], _, draft, bytes => .ok (draft, bytes)
  | field :: fields, first, draft, bytes => do
    match ← nextEntry 93 first bytes with
    | some bytes =>
      let (set, rest) ← field.read bytes
      positions fields false (set draft) rest
    | none =>
      match field.cut with
      | some fill => positions fields first (fill draft) bytes
      | none => throw .mismatched

def record (fields : List (Field δ)) (draft : δ) : Reader δ := fun bytes =>
  match skipBlank bytes with
  | 123 :: rest => do
    let (draft, rest) ← members fields (rest.length + 1) true [] draft rest
    return (draft, ← close 125 rest)
  | 91 :: rest => do
    let (draft, rest) ← positions fields true draft rest
    return (draft, ← close 93 rest)
  | bytes => .error (refuse bytes)

def document {α : Type} (reader : Reader α) (bytes : Bytes) : Except Fault α := do
  let (value, rest) ← reader bytes
  if (skipBlank rest).isEmpty then return value else throw .malformed

end Enrolment.Json
