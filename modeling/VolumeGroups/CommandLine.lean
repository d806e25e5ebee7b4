import VolumeGroups.CommandLine.Arguments
import VolumeGroups.Settings
import VolumeGroups.Word

/-! The commands of the operator's program: print the definitions of its resources, or serve a
driver. -/

namespace VolumeGroups

/-- A number between two bounds in decimal digits, perhaps with a sign. -/
def integerBetween? (low high : Int) (text : String) : Option Int :=
  let (negative, digits) := match text.toList with
    | '-' :: rest => (true, rest)
    | '+' :: rest => (false, rest)
    | rest => (false, rest)
  -- A sign belongs to the number, and only one of them.
  if digits.isEmpty || !digits.all Char.isDigit then none
  else
    let magnitude : Int := digitsValue digits
    let value := if negative then -magnitude else magnitude
    -- The bounds are looked at last, so that digits too many are refused and never wrapped.
    if low ≤ value ∧ value ≤ high then some value else none

namespace Settings

/-- The options that change settings. -/
def options : List (ValueOption Settings) :=
  [{ name := "driver-name"
     take := fun driverName settings => some { settings with driverName } },
    { name := "csi-address"
      take := fun driverAddress settings => some { settings with driverAddress } },
    { name := "rpc-timeout"
      take := fun text settings =>
        (unsignedBelow? (wordBound 64) text).map fun callSeconds => { settings with callSeconds } },
    { name := "concurrency"
      take := fun text settings =>
        (integerBetween? 0 65535 text).map fun value =>
          { settings with concurrency := value.toNat } },
    { name := "health-address"
      take := fun text settings =>
        (SocketAddress.parse? text).map fun healthAddress => { settings with healthAddress } }]

/-- The settings that an environment gives by itself. -/
def ofEnvironment (environment : String → Option String) : Settings :=
  let settings : Settings := {}
  { settings with
    driverName := (environment "DRIVER_NAME").getD settings.driverName
    driverAddress := (environment "CSI_ADDRESS").getD settings.driverAddress }

/-- The settings that arguments give on top of an environment. -/
def ofArguments (environment : String → Option String) (arguments : List String) :
    Except UsageError Settings :=
  readArguments options (some "server") (ofEnvironment environment) arguments

end Settings

/-- What the program is asked to do. -/
inductive Command where
  /-- Print the definitions of the resources, perhaps into a file. -/
  | definitions (file : Option String)
  /-- Serve a driver. -/
  | serve (settings : Settings)
  deriving DecidableEq

namespace Command

/-- The option that names a file. -/
def fileOption : ValueOption (Option String) where
  name := "file"
  letter := some 'f'
  take path _ := some (some path)

/-- The commands that there is help for. -/
def names : List String := ["crd", "server", "help"]

/-- The command for which help is asked by naming it. -/
def helpFor : List String → UsageError
  | [] => .helpWanted none
  | [name] => if names.contains name then .helpWanted (some name) else .unknownCommand
  -- No command has commands of its own.
  | _ => .unknownCommand

/-- What some arguments ask for. -/
def ofArguments (environment : String → Option String) (arguments : List String) :
    Except UsageError Command :=
  match arguments with
  | [] => .error .missingCommand
  | first :: rest =>
    match Argument.ofText first with
    -- A program without anything after it is told of the missing command, not of an unknown word.
    | .separator => .error (if rest.isEmpty then .missingCommand else .unknownArgument)
    | .named name value =>
      if name = "help" then .error (if value.isSome then .unneededValue else .helpWanted none)
      -- Only help and the version are known before a command is named.
      else if name = "version" then
        .error (if value.isSome then .unneededValue else .versionWanted)
      else .error .unknownArgument
    | .letters letter _ =>
      if letter = 'h' then .error (.helpWanted none)
      else if letter = 'V' then .error .versionWanted
      else .error .unknownArgument
    | .plain name =>
      -- From here on the options of the command are read, and those of the program no longer.
      if name = "crd" then
        (readArguments [fileOption] (some "crd") none rest).map .definitions
      else if name = "server" then (Settings.ofArguments environment rest).map .serve
      else if name = "help" then .error (helpFor rest)
      else .error .unknownCommand

end Command

end VolumeGroups
