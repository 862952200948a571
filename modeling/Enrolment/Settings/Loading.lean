import Enrolment.Settings.Files
import Enrolment.Settings.Sections
import Enrolment.Settings.Variables

set_option autoImplicit false

namespace Enrolment.Settings

-- A mistyped value comes from the variable that sets its key, or else from the file.
def Fault.foundIn (path : String) (overrides : List Variable) : Fault → Fault
  | .mistyped key found wanted _ =>
    let isSet := overrides.any fun given => given.key? == some key
    .mistyped key found wanted (some (if isSet then "the environment" else path))
  | fault => fault

def ofSources (tree : SettingTree) (overrides : List Variable) : Except Fault Settings :=
  ofTree (SettingTree.overlay (Variable.entries overrides)
    (SettingTree.overlay tree.entries (.table [])))

def load (read : FileReader) (path : String) (overrides : List Variable) :
    Except Fault Settings :=
  match lookUp read path with
  | .missing => .error (.notFound path)
  | .unknownFormat => .error (.unknownFormat path)
  | .found text format =>
    match format.parse? (unmarked text) with
    | none => .error .unparsable
    | some tree =>
      match ofSources tree overrides with
      | .ok settings => .ok { settings with path := some path }
      | .error fault => .error (fault.foundIn path overrides)

end Enrolment.Settings
