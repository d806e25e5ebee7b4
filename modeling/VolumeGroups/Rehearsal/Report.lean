import VolumeGroups.Manifest.Metadata
import VolumeGroups.Rehearsal.Fault
import VolumeGroups.Store.Object

/-! What is told of a rehearsal: the names of its calls, what they are about, and what came of
the store. -/

namespace VolumeGroups

namespace Method

/-- The name of a method in reports and plans. -/
def name : Method → String
  | .getGroup => "get_volume_group"
  | .listGroups => "list_volume_groups"
  | .replaceGroup => "replace_volume_group"
  | .replaceGroupStatus => "replace_volume_group_status"
  | .getClass => "get_volume_group_class"
  | .getContent => "get_volume_group_content"
  | .createContent => "create_volume_group_content"
  | .replaceContent => "replace_volume_group_content"
  | .replaceContentStatus => "replace_volume_group_content_status"
  | .deleteContent => "delete_volume_group_content"
  | .getSecret => "get_secret"
  | .listClaims => "list_claims"
  | .replaceClaim => "replace_claim"
  | .getVolume => "get_persistent_volume"
  | .getStorageClass => "get_storage_class"
  | .record => "record"
  | .createDriverGroup => DriverMethod.create
  | .deleteDriverGroup => DriverMethod.delete
  | .modifyMembership => DriverMethod.modify
  | .readClock => "read_clock"

/-- The methods whose calls can fail. -/
def fallible : List Method :=
  [.getGroup, .listGroups, .replaceGroup, .replaceGroupStatus, .getClass, .getContent,
    .createContent, .replaceContent, .replaceContentStatus, .deleteContent, .getSecret,
    .listClaims, .replaceClaim, .getVolume, .getStorageClass, .record, .createDriverGroup,
    .deleteDriverGroup, .modifyMembership]

/-- The method of a name, if its calls can fail. -/
def ofName? (name : String) : Option Method := fallible.find? fun method => method.name == name

end Method

/-- What a call is about: the key of an object, a namespace, or the arguments themselves. -/
def Call.subject : Call → Json
  -- Objects are told by namespace and name, where an empty namespace is written too.
  | .getGroup name space | .getContent name space | .deleteContent name space
  | .getSecret name space => .text (space ++ "/" ++ name)
  | .listGroups space | .listClaims space => .text space
  | .replaceGroup group | .replaceGroupStatus group => .text (Resource.key group)
  | .createContent content | .replaceContent content | .replaceContentStatus content =>
    .text (Resource.key content)
  | .replaceClaim claim => .text (Resource.key claim)
  | .getClass name | .getVolume name | .getStorageClass name => .text ("/" ++ name)
  -- Calls without an object are told by their arguments.
  | .record event =>
    .object
      [("message", .text event.message), ("reason", .text event.reason),
        ("regarding", event.regarding.toJson), ("type", .text event.type.name)]
  | .createDriverGroup name secrets parameters =>
    .object
      [("name", .text name), ("parameters", .ofTextMap parameters),
        ("secrets", .ofTextMap secrets)]
  | .deleteDriverGroup handle secrets =>
    .object [("id", .text handle), ("secrets", .ofTextMap secrets)]
  | .modifyMembership handle volumeIds secrets =>
    .object
      [("id", .text handle), ("secrets", .ofTextMap secrets), ("volume_ids", .ofTexts volumeIds)]
  -- The clock is read without arguments.
  | .readClock => .null

namespace Store

/-- The objects of one kind that are new or different, by the kind and their keys. -/
def newIn {α : Type} [DecidableEq α] [Manifest α] (kind : String) (now before : Table α) : Fields :=
  (now.newSince before).map fun entry => (kind ++ " " ++ entry.1, Manifest.toJson entry.2)

/-- The groups, contents and claims that are new or different. -/
def newSince (now before : Store) : Fields :=
  newIn "group" now.groups before.groups
    ++ newIn "content" now.contents before.contents
    ++ newIn "claim" now.claims before.claims

/-- The objects of one kind that are gone. -/
def lostFrom {α : Type} (kind : String) (now before : Table α) : List String :=
  (now.lostSince before).map fun key => kind ++ " " ++ key

/-- The groups, contents and claims that are gone, in the order of their names. -/
def lostSince (now before : Store) : List String :=
  -- Kinds are put in front of the keys, so that names of two kinds do not mix.
  let lost :=
    lostFrom "group" now.groups before.groups
      ++ lostFrom "content" now.contents before.contents
      ++ lostFrom "claim" now.claims before.claims
  lost.mergeSort fun left right => !decide (right < left)

end Store

end VolumeGroups
