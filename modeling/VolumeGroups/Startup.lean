import VolumeGroups.CommandLine
import VolumeGroups.CommandLine.Help
import VolumeGroups.DriverClient
import VolumeGroups.Yaml

/-! Runs of the program: what its arguments make it do, and how it ends. -/

namespace VolumeGroups

/-- Why the program ends without success. -/
inductive StartError where
  /-- The settings are no good. -/
  | settings (cause : SettingsError)
  /-- The driver cannot be reached or does not tell its name. -/
  | driver (cause : DriverError)
  /-- The file cannot be written. -/
  | unwritableFile (path : String)
  /-- Nothing tells where the cluster is. -/
  | unknownCluster
  deriving DecidableEq

/-- What is wrong. -/
def StartError.message : StartError → String
  | .settings cause => cause.message
  | .driver cause => cause.message
  | .unwritableFile path => "cannot write " ++ path
  | .unknownCluster => "no cluster is configured"

/-- How a run of the program ends. -/
structure Ending where
  /-- The code that tells whoever started the program. -/
  code : Nat := 0
  failure : Option StartError := none
  /-- The driver that the program came to serve. -/
  serving : Option String := none
  output : String := ""
  deriving DecidableEq, Inhabited

namespace Ending

/-- The ending of a run that fails. -/
def failing (failure : StartError) (serving : Option String := none) : Ending :=
  { code := 1, failure := some failure, serving }

/-- The ending of a run whose arguments name nothing to do. -/
def ofUsageError (environment : String → Option String) : UsageError → Ending
  | .helpWanted command => { output := helpText environment command }
  | .versionWanted => { output := versionText }
  | _ => { code := 2 }

end Ending

/-- Become ready to serve a driver, and tell its name. -/
def Settings.start (settings : Settings) (answers : Endpoint → Bool) (line : Line) :
    Except StartError String × Line :=
  match settings.validate with
  | .error cause => (.error (.settings cause), line)
  | .ok () =>
    match DriverClient.connect answers settings.driverAddress settings.callLimit with
    | .error cause => (.error (.driver cause), line)
    | .ok client =>
      let line := client.waitUntilReady line
      -- A name that is given is not asked for.
      if settings.driverName.isEmpty then
        let (name, line) := client.pluginName line
        (name.mapError .driver, line)
      else (.ok settings.driverName, line)

/-- Serve a driver, as far as that goes without a cluster. -/
def Settings.serve (settings : Settings) (answers : Endpoint → Bool) (line : Line) :
    Ending × Line :=
  -- Without a cluster the operator comes as far as the name of its driver.
  let (started, line) := settings.start answers line
  match started with
  | .error failure => (.failing failure, line)
  | .ok name => (.failing .unknownCluster (some name), line)

/-- Print the definitions, or write them into a file that can be written. -/
def printDefinitions (canWrite : String → Bool) (file : Option String) : Ending :=
  match file with
  | none => { output := Definition.text }
  | some path => if canWrite path then {} else .failing (.unwritableFile path)

/-- Do what some arguments ask for. -/
def runProgram (environment : String → Option String) (canWrite : String → Bool)
    (answers : Endpoint → Bool) (arguments : List String) (line : Line) : Ending × Line :=
  -- Arguments are read in full before anything is done about them.
  match Command.ofArguments environment arguments with
  | .error error => (.ofUsageError environment error, line)
  | .ok (.definitions file) => (printDefinitions canWrite file, line)
  | .ok (.serve settings) => settings.serve answers line

end VolumeGroups
