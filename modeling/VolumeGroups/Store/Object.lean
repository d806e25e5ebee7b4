import VolumeGroups.Manifest.Claim
import VolumeGroups.Manifest.Content
import VolumeGroups.Manifest.Group
import VolumeGroups.Store

/-! Objects of any kind, as documents bring them into a store. -/

namespace VolumeGroups

/-- An object of any kind that a store keeps. -/
inductive AnyObject where
  | group (object : Group)
  | groupClass (object : GroupClass)
  | content (object : Content)
  | claim (object : Claim)
  | volume (object : Volume)
  | secret (object : Secret)
  | storageClass (object : StorageClass)
  deriving DecidableEq

namespace AnyObject

/-- The object of a kind in a document, if the document holds one. -/
def ofJson? (kind : Kind) (value : Json) : Option AnyObject :=
  match kind with
  | .group => (Manifest.ofJson? value).map .group
  | .groupClass => (Manifest.ofJson? value).map .groupClass
  | .content => (Manifest.ofJson? value).map .content
  | .claim => (Manifest.ofJson? value).map .claim
  | .volume => (Manifest.ofJson? value).map .volume
  | .secret => (Manifest.ofJson? value).map .secret
  | .storageClass => (Manifest.ofJson? value).map .storageClass
  -- Events are told, not kept.
  | .event => none

/-- The document of an object. -/
def toJson : AnyObject → Json
  | .group object => Manifest.toJson object
  | .groupClass object => Manifest.toJson object
  | .content object => Manifest.toJson object
  | .claim object => Manifest.toJson object
  | .volume object => Manifest.toJson object
  | .secret object => Manifest.toJson object
  | .storageClass object => Manifest.toJson object

end AnyObject

namespace Store

/-- The store with an object of any kind stored under its own key. -/
def saveAny (store : Store) : AnyObject → Store
  | .group object => (store.save object).2
  | .groupClass object => (store.save object).2
  | .content object => (store.save object).2
  | .claim object => (store.save object).2
  | .volume object => (store.save object).2
  | .secret object => (store.save object).2
  | .storageClass object => (store.save object).2

/-- The object of a kind, a namespace and a name. -/
def getAny (store : Store) (kind : Kind) (name «namespace» : String) :
    Except ClusterError AnyObject :=
  match kind with
  | .group => (store.get name «namespace»).map .group
  | .groupClass => (store.get name «namespace»).map .groupClass
  | .content => (store.get name «namespace»).map .content
  | .claim => (store.get name «namespace»).map .claim
  | .volume => (store.get name «namespace»).map .volume
  | .secret => (store.get name «namespace»).map .secret
  | .storageClass => (store.get name «namespace»).map .storageClass
  -- Events are not kept, so there is never one to be found.
  | .event => .error (.notFound .event name)

/-- The object of a kind removed, or only set to terminate if a mark holds it. -/
def deleteAny (store : Store) (kind : Kind) (name «namespace» : String) :
    Except ClusterError Unit × Store :=
  match kind with
  | .group => store.delete Group name «namespace»
  | .groupClass => store.delete GroupClass name «namespace»
  | .content => store.delete Content name «namespace»
  | .claim => store.delete Claim name «namespace»
  | .volume => store.delete Volume name «namespace»
  | .secret => store.delete Secret name «namespace»
  | .storageClass => store.delete StorageClass name «namespace»
  | .event => (.error (.notFound .event name), store)

end Store

end VolumeGroups
