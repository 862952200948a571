import Enrolment.Settings.Toml

set_option autoImplicit false

namespace Enrolment

-- Files with text in them, by their paths.
abbrev FileReader := String → Option String

def pathNames (path : String) : List (List Char) :=
  (splitAt '/' path.toList).filter fun name => !name.isEmpty && name ≠ ['.']

def FileReader.ofList (files : List (String × String)) : FileReader := fun path =>
  if path.toList.getLast? = some '/' then none
  else (files.find? fun file => pathNames file.1 = pathNames path).map Prod.snd

inductive SettingFormat
  | toml
  | json
  deriving Repr, DecidableEq

namespace SettingFormat

-- The formats by extension. JSON is read also where a superset of it is due.
def extensions : List (String × SettingFormat) :=
  [("toml", toml), ("json", json), ("yaml", json), ("yml", json), ("json5", json),
   ("ron", json)]

def ofExtension? (extension : String) : Option SettingFormat := extensions.lookup extension

def parse? : SettingFormat → String → Option SettingTree
  | toml, text => Toml.parse? text
  | json, text => (Json.Value.parse text).toOption.map SettingTree.ofJson

end SettingFormat

namespace Settings

def extension (path : String) : String :=
  let name := path.toList.reverse.takeWhile (· ≠ '/')
  let last := name.takeWhile (· ≠ '.')
  if name.length ≤ last.length + 1 then "" else String.ofList last.reverse

def candidates (path : String) : List String :=
  path :: SettingFormat.extensions.map fun (extension, _) => path ++ "." ++ extension

inductive Lookup
  | found (text : String) (format : SettingFormat)
  | unknownFormat
  | missing

def lookUp (read : FileReader) (path : String) : Lookup :=
  match read path with
  | some text =>
    match SettingFormat.ofExtension? (extension path) with
    | some format => .found text format
    | none => .unknownFormat
  | none =>
    let longer := SettingFormat.extensions.findSome? fun (extension, format) =>
      (read (path ++ "." ++ extension)).map fun text => Lookup.found text format
    longer.getD .missing

-- A mark of the byte order may stand before the text.
def unmarked (text : String) : String :=
  match text.toList with
  | '\ufeff' :: rest => String.ofList rest
  | _ => text

end Settings

end Enrolment
