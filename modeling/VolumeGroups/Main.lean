import VolumeGroups.Startup

/-! The operator's program, without a transport to a driver or a cluster. -/

namespace VolumeGroups

/-- The variables of the environment that settings come from. -/
def readEnvironment : IO (String → Option String) := do
  -- The variables are read once, so that settings do not change while they are made.
  let driverName ← IO.getEnv "DRIVER_NAME"
  let driverAddress ← IO.getEnv "CSI_ADDRESS"
  return fun name =>
    match name with
    | "DRIVER_NAME" => driverName
    | "CSI_ADDRESS" => driverAddress
    | _ => none

/-- Write the definitions into the file that a command names, and tell whether that worked. -/
def writeDefinitions (command : Except UsageError Command) : IO Bool :=
  match command with
  | .ok (.definitions (some path)) =>
    tryCatch (do IO.FS.writeFile path Definition.text; return true) fun _ => return false
  | _ => return true

/-- Do what some arguments ask for, and tell the code that the program ends with. -/
def runArguments (arguments : List String) : IO UInt32 := do
  let environment ← readEnvironment
  let written ← writeDefinitions (Command.ofArguments environment arguments)
  -- Without a transport no endpoint answers.
  let (ending, _) :=
    runProgram environment (fun _ => written) (fun _ => false) arguments { replies := [] }
  IO.print ending.output
  match ending.failure with
  | some failure => IO.eprintln ("Error: " ++ failure.message)
  | none => if ending.code ≠ 0 then IO.eprint (helpText environment none)
  return ending.code.toUInt32

end VolumeGroups

/-- Do what the arguments ask for. -/
def main (arguments : List String) : IO UInt32 := VolumeGroups.runArguments arguments
