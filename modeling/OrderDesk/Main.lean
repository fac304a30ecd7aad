import OrderDesk.Launch
import OrderDesk.Server.Answer

/-!
# The program

Launches a server from the variables of the process and the file that they name. There is no
network here: no backend answers, and the program ends where the server would take its first
request.
-/

namespace OrderDesk.Program

/-- Why a file cannot be read, in the words of the system. -/
def reasonOf : IO.Error → String
  | .noFileOrDirectory _ _ _ => "No such file or directory (os error 2)"
  | .permissionDenied _ _ _ => "Permission denied (os error 13)"
  | .inappropriateType _ _ _ => "Is a directory (os error 21)"
  | e => e.toString

def textAt (path : String) : IO (Except String String) := do
  try
    match String.fromUTF8? (← IO.FS.readBinFile path) with
    | some text => return .ok text
    | none => return .error "stream did not contain valid UTF-8"
  catch e => return .error (reasonOf e)

/-- The variables that a launch looks at. -/
def variableNames : List String :=
  (["CONFIG", "ENV"] ++ Settings.allOverrides.map (·.setting)).map Settings.variableName

def knownVariables : IO (Fields String) := do
  let found ← variableNames.mapM fun name => return (← IO.getEnv name).map (name, ·)
  return found.reduceOption

/-- Launches a server; the result is the exit code. -/
def run : IO UInt32 := do
  let known ← knownVariables
  let text ← textAt ((Fields.get? known (Settings.variableName "CONFIG")).getD "")
  let level := ((← IO.getEnv "RUST_LOG").bind Level.ofName?).getD .info
  let (result, events) := Launch.run {
    lookup := Fields.get? known
    textOfFile := fun _ => text
    database := [.severed]
    node := fun _ => .unreachable }
  for event in events do
    if event.level.isShownAt level then IO.println event.message
  match result with
  | .ok _ => return 0
  | .error fault => do
    IO.eprintln ("Error: " ++ fault.message)
    return 1

end OrderDesk.Program

def main : IO UInt32 := OrderDesk.Program.run
