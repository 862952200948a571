import Enrolment.CommandLine

set_option autoImplicit false

namespace Enrolment

def givenVariables : IO (List Variable) :=
  Settings.keys.filterMapM fun key => do
    let name := Variable.nameOf key
    return (← IO.getEnv name).map fun value => ⟨name, value⟩

def givenFiles (path : String) : IO (List (String × String)) :=
  (Settings.candidates path).filterMapM fun (file : String) => do
    try return some (file, ← IO.FS.readFile file) catch _ => return none

end Enrolment

open Enrolment

def main (arguments : List String) : IO UInt32 := do
  let path := match CommandLine.parse none arguments with
    | some (.start path) => path
    | _ => Settings.standardPath
  let files := FileReader.ofList (← givenFiles path)
  let read : FileReader := fun path => files path <|> Settings.standardFile path
  match CommandLine.run read (← givenVariables) arguments with
  | .ok text =>
    IO.print text
    return 0
  | .error fault =>
    IO.eprintln ("Error: " ++ fault.message)
    return fault.exitCode.toUInt32
