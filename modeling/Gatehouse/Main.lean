import Gatehouse.Invocation

/-!
# The program

Reads the configuration file that the command line names, and says what `Invocation` and `start`
make of it. Without `--check` the gateway is set up and left, for whoever holds the connections.
-/

namespace Gatehouse

/-- Why a file could not be read, in words. -/
def unreadable : IO.Error → String
  | .noFileOrDirectory .. => "No such file or directory (os error 2)"
  | e => toString e

/-- What a file was found to hold. -/
def fileContent (path : String) : IO (Except String String) := do
  try
    return .ok (← IO.FS.readFile path)
  catch e => return .error (unreadable e)

/-- Says a fault and gives the exit code for it. -/
def failure (text : String) (code : UInt32) : IO UInt32 := do
  IO.eprintln text
  return code

/-- Does what an invocation asks for. -/
def Invocation.perform (i : Invocation) : IO UInt32 := do
  let file ← i.config.mapM fileContent
  match i.check, i.config, file with
  | true, some path, some content =>
    match checkReport path content with
    | .ok report =>
      IO.println report
      return 0
    | .error report => failure report 1
  | _, _, _ =>
    match start file () () () () with
    | .ok _ => return 0
    | .error e => failure ("api-gateway: " ++ e.message) 1

end Gatehouse

/-- The program. -/
def main (args : List String) : IO UInt32 :=
  match Gatehouse.Invocation.ofArgs args with
  | .ok i => i.perform
  | .error e => Gatehouse.failure ("error: " ++ e.message) 2
