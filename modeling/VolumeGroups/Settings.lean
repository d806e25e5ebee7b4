import VolumeGroups.Duration
import VolumeGroups.Net.SocketAddress
import VolumeGroups.Text.Blank

/-! What an operator can be told: which driver it serves, how it reaches the driver and how much
it does at once. -/

namespace VolumeGroups

/-- What an operator is told. -/
structure Settings where
  /-- The driver it serves, where an empty name stands for whatever the driver calls itself. -/
  driverName : String := ""
  /-- Where the driver is reached. -/
  driverAddress : String := "/run/csi/socket"
  /-- How many seconds a call of the driver may take. -/
  callSeconds : Nat := 60
  /-- How many groups are worked on at once. -/
  concurrency : Nat := 4
  /-- Where the operator tells how it is doing. -/
  healthAddress : SocketAddress := .v4 [0, 0, 0, 0] 8081
  deriving DecidableEq, Inhabited

/-- Why an operator cannot work with its settings. -/
inductive SettingsError where
  | zeroTimeout
  | zeroConcurrency
  | emptyAddress
  deriving DecidableEq

/-- What is wrong with the settings. -/
def SettingsError.message : SettingsError → String
  | .zeroTimeout => "rpc timeout must be greater than zero"
  | .zeroConcurrency => "concurrency must be greater than zero"
  | .emptyAddress => "csi address must be not empty"

namespace Settings

/-- How long a call of the driver may take. -/
def callLimit (settings : Settings) : Duration := .ofSeconds settings.callSeconds

/-- Whether an operator can work with its settings. -/
def validate (settings : Settings) : Except SettingsError Unit :=
  if settings.callSeconds = 0 then .error .zeroTimeout
  else if settings.concurrency = 0 then .error .zeroConcurrency
  else if isBlankText settings.driverAddress then .error .emptyAddress
  else .ok ()

end Settings

end VolumeGroups
