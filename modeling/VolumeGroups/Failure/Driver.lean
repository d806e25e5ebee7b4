import VolumeGroups.Duration

/-! Why a call of the storage driver fails. -/

namespace VolumeGroups

namespace StatusCode

/-- Success. -/
def ok : Nat := 0

/-- A failure that no other code names. -/
def unknown : Nat := 2

/-- The thing asked for is not there. -/
def notFound : Nat := 5

/-- The driver does not offer the call. -/
def unimplemented : Nat := 12

/-- The answer makes no sense. -/
def internal : Nat := 13

/-- A code of an answer, where those that do not exist count as unknown. -/
def ofInt (code : Int) : Nat := if 0 ≤ code ∧ code ≤ 16 then code.toNat else unknown

end StatusCode

namespace DriverMethod

/-- Asking whether the driver is ready. -/
def probe : String := "Probe"

/-- Asking for the driver's name. -/
def pluginInfo : String := "GetPluginInfo"

/-- Making a group. -/
def create : String := "CreateVolumeGroup"

/-- Forgetting a group. -/
def delete : String := "DeleteVolumeGroup"

/-- Changing the volumes of a group. -/
def modify : String := "ModifyVolumeGroupMembership"

end DriverMethod

/-- Why no connection to a driver comes about. -/
inductive ConnectError where
  /-- Nothing answers at the address. -/
  | unreachable
  /-- The address is malformed. -/
  | malformed
  deriving DecidableEq

/-- What is wrong with the connection. -/
def ConnectError.message : ConnectError → String
  | .unreachable => "transport error"
  | .malformed => "invalid URI"

/-- Why a call of the storage driver fails. -/
inductive DriverError where
  /-- The call ends with a failing code, with the text the driver gave if it gave one. -/
  | status (method : String) (code : Nat) (text : Option String)
  /-- No answer came in time. -/
  | timeout (method : String) (limit : Duration)
  /-- No connection comes about. -/
  | connect (address : String) (cause : ConnectError)
  /-- The answer names no group. -/
  | missingGroup (method : String)
  deriving DecidableEq

namespace DriverError

/-- What is wrong with the call. -/
def message : DriverError → String
  | .status method _ text => method ++ " failed: " ++ text.getD ""
  | .timeout method limit => method ++ " timed out after " ++ limit.text
  | .connect address cause =>
    "failed to connect to driver at '" ++ address ++ "': " ++ cause.message
  | .missingGroup method => method ++ " returned no volume group"

/-- The text for a group's status: the driver's own words where it has any. -/
def statusMessage : DriverError → String
  -- The driver's own words are for the user, who did not ask which method was called.
  | .status method code text =>
    match text with
    -- A driver that says nothing leaves the user with the name of the method.
    | some words => if words.isEmpty then message (.status method code text) else words
    | none => message (.status method code text)
  | error => error.message

/-- The code the call ended with. -/
def code? : DriverError → Option Nat
  | .status _ code _ => some code
  | _ => none

/-- The driver does not know the group. -/
def isNotFound (error : DriverError) : Bool := error.code? == some StatusCode.notFound

end DriverError

end VolumeGroups
