import VolumeGroups.Failure.Pass

/-! The parameters of a class, split into those for the driver and those the operator reserves. -/

namespace VolumeGroups

/-- The key under which a class names the secret with the driver's credentials. -/
def secretNameKey : String := reservedStem ++ "secret-name"

/-- The key under which a class names the namespace of that secret. -/
def secretNamespaceKey : String := reservedStem ++ "secret-namespace"

/-- A key is one that the operator reserves. -/
def isReservedKey (key : String) : Bool := reservedStem.toList.isPrefixOf key.toList

/-- Where a class says the credentials lie. -/
structure SecretLocation where
  name : Option String := none
  «namespace» : Option String := none
  deriving DecidableEq, Inhabited

namespace SecretLocation

/-- Name and namespace, if the class gives both. -/
def both (location : SecretLocation) : Option (String × String) :=
  match location.name, location.namespace with
  | some name, some space => some (name, space)
  | _, _ => none

/-- The class gives one half only, which points to no secret. -/
def isPartial (location : SecretLocation) : Bool :=
  location.name.isSome != location.namespace.isSome

end SecretLocation

/-- The parameters of a class after the split. -/
structure ClassParameters where
  /-- What the driver gets. -/
  driver : KeyMap String := ∅
  secret : SecretLocation := {}
  deriving DecidableEq, Inhabited

namespace ClassParameters

/-- The split with one more parameter in it. -/
def add (resolved : ClassParameters) (entry : String × String) :
    Except ParameterError ClassParameters :=
  let (key, value) := entry
  if !isReservedKey key then .ok { resolved with driver := resolved.driver.insert key value }
  else if key = secretNameKey then
    if value.isEmpty then .error (.emptyValue key)
    else .ok { resolved with secret := { resolved.secret with name := some value } }
  else if key = secretNamespaceKey then
    if value.isEmpty then .error (.emptyValue key)
    else .ok { resolved with secret := { resolved.secret with «namespace» := some value } }
  -- A reserved key that nobody reads is more likely misspelt than meant for the driver.
  else .error (.unknownReservedKey key)

/-- The split of a class's parameters, or what is wrong with the first bad key. -/
def resolve (parameters : KeyMap String) : Except ParameterError ClassParameters :=
  parameters.entries.foldlM add {}

end ClassParameters

end VolumeGroups
