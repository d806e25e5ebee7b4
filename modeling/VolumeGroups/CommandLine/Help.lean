/-! The words by which the program explains itself. -/

namespace VolumeGroups

/-- The name of the program. -/
def programName : String := "vg-op"

/-- The version of the program. -/
def programVersion : String := "0.1.0"

/-- What is told about the version. -/
def versionText : String := programName ++ " " ++ programVersion ++ "\n"

/-- What is told about the commands. -/
def commandLines : List String :=
  ["Commands:",
    "  crd     Output CRDs in YAML",
    "  server  Run the controller",
    "  help    Print this message or the help of the given subcommand(s)"]

/-- What is told about the program as a whole. -/
def programHelp : List String :=
  ["Volume group operator for CSI drivers",
    "",
    "Usage: " ++ programName ++ " <COMMAND>",
    ""]
    ++ commandLines
    ++ ["",
      "Options:",
      "  -h, --help     Print help",
      "  -V, --version  Print version"]

/-- What is told about printing the definitions. -/
def definitionsHelp : List String :=
  ["Output CRDs in YAML",
    "",
    "Usage: " ++ programName ++ " crd [OPTIONS]",
    "",
    "Options:",
    "  -f, --file <FILE>  Optional output path. If not set, the output will be written to stdout",
    "  -h, --help         Print help"]

/-- A setting that the environment may give, with the value it gives now. -/
def environmentNote (environment : String → Option String) (name : String) : String :=
  "[env: " ++ name ++ "=" ++ (environment name).getD "" ++ "]"

/-- What is told about serving a driver. -/
def serverHelp (environment : String → Option String) : List String :=
  ["Run the controller",
    "",
    "Usage: " ++ programName ++ " server [OPTIONS]",
    "",
    "Options:",
    "      --driver-name <DRIVER_NAME>",
    "          Name of the CSI driver served by this operator instance. Discovered from the driver's "
      ++ "GetPluginInfo when empty "
      ++ environmentNote environment "DRIVER_NAME" ++ " [default: ]",
    "      --csi-address <CSI_ADDRESS>",
    "          Address of the CSI driver socket " ++ environmentNote environment "CSI_ADDRESS"
      ++ " [default: /run/csi/socket]",
    "      --rpc-timeout <SECONDS>",
    "          Timeout in seconds for every RPC to the driver [default: 60]",
    "      --concurrency <CONCURRENCY>",
    "          Number of volume groups reconciled in parallel [default: 4]",
    "      --health-address <HEALTH_ADDRESS>",
    "          Address of the /healthz and /readyz endpoints [default: 0.0.0.0:8081]",
    "  -h, --help",
    "          Print help"]

/-- What is told about asking for help. -/
def helpHelp : List String :=
  ["Print this message or the help of the given subcommand(s)",
    "",
    "Usage: " ++ programName ++ " help [COMMAND]...",
    "",
    "Arguments:",
    "  [COMMAND]...  Print help for the subcommand(s)"]

/-- What is told about a command, or about the program if none is named. -/
def helpText (environment : String → Option String) (command : Option String) : String :=
  let lines := match command with
    | some "crd" => definitionsHelp
    | some "server" => serverHelp environment
    | some "help" => helpHelp
    | _ => programHelp
  String.join (lines.map (· ++ "\n"))

end VolumeGroups
