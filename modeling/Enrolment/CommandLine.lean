import Enrolment.Http.OpenApi
import Enrolment.Settings.Standard

set_option autoImplicit false

namespace Enrolment.CommandLine

inductive Request
  | help
  | version
  | start (path : String)
  deriving Repr, DecidableEq

def isValue (argument : List Char) : Bool :=
  match argument with
  | [] => false
  | ['-'] => true
  | first :: _ => first ≠ '-'

def pathOption : List Char := "--config-path".toList

def parse : Option String → List String → Option Request
  | path, [] => some (.start (path.getD Settings.standardPath))
  | path, argument :: rest =>
    if argument = "--help" then some .help
    else if argument = "--version" then some .version
    else if argument.toList = pathOption then
      match rest with
      | value :: rest =>
        if path.isNone && isValue value.toList then parse (some value) rest else none
      | [] => none
    else
      match argument.toList with
      | '-' :: 'h' :: _ => some .help
      | '-' :: 'V' :: _ => some .version
      | chars =>
        let value := chars.drop (pathOption.length + 1)
        if chars = ['-', '-'] && rest.isEmpty then some (.start (path.getD Settings.standardPath))
        else if chars.take (pathOption.length + 1) = pathOption ++ ['='] && !value.isEmpty &&
            path.isNone then
          parse (some (String.ofList value)) rest
        else none

def helpText : String :=
  OpenApi.ownInfo.description ++ "\n\n" ++
  "Usage: " ++ OpenApi.ownInfo.title ++ " [OPTIONS]\n\n" ++
  "Options:\n" ++
  "      --config-path <CONFIG_PATH>  Path to the settings file, defaults to " ++
    "\x60config/settings.toml\x60\n" ++
  "  -h, --help                       Print help\n" ++
  "  -V, --version                    Print version\n"

def versionText : String := OpenApi.ownInfo.title ++ " " ++ OpenApi.ownInfo.version ++ "\n"

inductive Fault
  | usage
  | settings (fault : Settings.Fault)
  -- There is no database to connect to.
  | noDatabase

namespace Fault

def message : Fault → String
  | usage => "unexpected arguments, try --help"
  | settings fault => fault.message
  | noDatabase => "Cannot connect to postgres database."

def exitCode : Fault → Nat
  | usage => 2
  | settings _ | noDatabase => 1

end Fault

def run (read : FileReader) (overrides : List Variable) (arguments : List String) :
    Except Fault String :=
  match parse none arguments with
  | none => .error .usage
  | some .help => .ok helpText
  | some .version => .ok versionText
  | some (.start path) =>
    match Settings.load read path overrides with
    | .ok _ => .error .noDatabase
    | .error fault => .error (.settings fault)

end Enrolment.CommandLine
