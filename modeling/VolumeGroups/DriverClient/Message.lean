import VolumeGroups.Call
import VolumeGroups.Wire.Message

/-! The messages that the operator and a storage driver exchange. -/

namespace VolumeGroups

/-- Whether the driver is ready. -/
structure ProbeResponse where
  /-- The driver's word, where none means ready. -/
  ready : Option Bool := none
  deriving DecidableEq, Inhabited

instance : Message ProbeResponse where
  blank := {}
  readField? depth key response bytes :=
    match key.number with
    | 1 =>
      (Message.readNested? depth key (response.ready.map BoolMessage.mk) bytes).map
        fun (message, rest) => (⟨some message.value⟩, rest)
    | _ => Message.ignore? depth key response bytes
  write response := Message.writeNested 1 (response.ready.map BoolMessage.mk)

/-- What the driver says of itself. -/
structure PluginInfo where
  name : String := ""
  vendorVersion : String := ""
  manifest : KeyMap String := ∅
  deriving DecidableEq, Inhabited

instance : Message PluginInfo where
  blank := {}
  readField? depth key info bytes :=
    -- Each field is told by its number alone, and one that nobody knows is passed over.
    match key.number with
    | 1 => (Message.readText? key bytes).map fun (name, rest) => ({ info with name }, rest)
    | 2 =>
      (Message.readText? key bytes).map fun (vendorVersion, rest) =>
        ({ info with vendorVersion }, rest)
    | 3 =>
      (Message.readEntry? depth info.manifest bytes).map fun (manifest, rest) =>
        ({ info with manifest }, rest)
    | _ => Message.ignore? depth key info bytes
  write info :=
    Message.writeText 1 info.name ++ Message.writeText 2 info.vendorVersion
      ++ Message.writeMap 3 info.manifest

/-- The wish for a new group. -/
structure CreateGroupRequest where
  name : String := ""
  parameters : KeyMap String := ∅
  secrets : KeyMap String := ∅
  deriving DecidableEq, Inhabited

instance : Message CreateGroupRequest where
  blank := {}
  -- A field that occurs again takes the place of the earlier one, while entries of a map add up.
  readField? depth key request bytes :=
    match key.number with
    | 1 => (Message.readText? key bytes).map fun (name, rest) => ({ request with name }, rest)
    | 2 =>
      (Message.readEntry? depth request.parameters bytes).map fun (parameters, rest) =>
        ({ request with parameters }, rest)
    | 3 =>
      (Message.readEntry? depth request.secrets bytes).map fun (secrets, rest) =>
        ({ request with secrets }, rest)
    | _ => Message.ignore? depth key request bytes
  write request :=
    Message.writeText 1 request.name ++ Message.writeMap 2 request.parameters
      ++ Message.writeMap 3 request.secrets

instance : Message CreatedGroup where
  blank := { handle := "" }
  readField? depth key group bytes :=
    match key.number with
    | 1 => (Message.readText? key bytes).map fun (handle, rest) => ({ group with handle }, rest)
    | 2 =>
      (Message.readEntry? depth group.attributes bytes).map fun (attributes, rest) =>
        ({ group with attributes }, rest)
    | _ => Message.ignore? depth key group bytes
  write group := Message.writeText 1 group.handle ++ Message.writeMap 2 group.attributes

/-- The group that a call made or changed. -/
structure GroupResponse where
  group : Option CreatedGroup := none
  deriving DecidableEq, Inhabited

instance : Message GroupResponse where
  blank := {}
  readField? depth key response bytes :=
    match key.number with
    | 1 =>
      (Message.readNested? depth key response.group bytes).map fun (group, rest) =>
        (⟨some group⟩, rest)
    | _ => Message.ignore? depth key response bytes
  write response := Message.writeNested 1 response.group

/-- The wish that the driver forget a group. -/
structure DeleteGroupRequest where
  handle : String := ""
  secrets : KeyMap String := ∅
  deriving DecidableEq, Inhabited

instance : Message DeleteGroupRequest where
  blank := {}
  readField? depth key request bytes :=
    match key.number with
    | 1 =>
      (Message.readText? key bytes).map fun (handle, rest) => ({ request with handle }, rest)
    | 2 =>
      (Message.readEntry? depth request.secrets bytes).map fun (secrets, rest) =>
        ({ request with secrets }, rest)
    | _ => Message.ignore? depth key request bytes
  write request := Message.writeText 1 request.handle ++ Message.writeMap 2 request.secrets

/-- The wish that a group hold certain volumes and no others. -/
structure ModifyMembershipRequest where
  handle : String := ""
  volumeIds : List String := []
  secrets : KeyMap String := ∅
  deriving DecidableEq, Inhabited

instance : Message ModifyMembershipRequest where
  blank := {}
  readField? depth key request bytes :=
    match key.number with
    | 1 =>
      (Message.readText? key bytes).map fun (handle, rest) => ({ request with handle }, rest)
    | 2 =>
      -- Identifiers come one to a field and keep the order of the fields.
      (Message.readText? key bytes).map fun (volumeId, rest) =>
        ({ request with volumeIds := request.volumeIds ++ [volumeId] }, rest)
    | 3 =>
      (Message.readEntry? depth request.secrets bytes).map fun (secrets, rest) =>
        ({ request with secrets }, rest)
    | _ => Message.ignore? depth key request bytes
  write request :=
    Message.writeText 1 request.handle ++ Message.writeTexts 2 request.volumeIds
      ++ Message.writeMap 3 request.secrets

end VolumeGroups
