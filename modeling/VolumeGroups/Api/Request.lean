import VolumeGroups.Failure.Cluster
import VolumeGroups.Manifest.Metadata
import VolumeGroups.Uri

/-! Requests to the server of a cluster: where objects are found and what is done with them. -/

namespace VolumeGroups

/-- What a request does. -/
inductive Verb where
  | get
  | post
  | put
  | patch
  | delete
  deriving DecidableEq

/-- The word for what a request does. -/
def Verb.name : Verb → String
  | .get => "GET"
  | .post => "POST"
  | .put => "PUT"
  | .patch => "PATCH"
  | .delete => "DELETE"

/-- A request as it goes out. -/
structure ApiRequest where
  verb : Verb
  uri : Uri
  body : Option Json := none

namespace ApiRequest

/-- The path under which the objects of a kind are found, those of one namespace if they live in
one. -/
def collection (kind : Kind) («namespace» : String) : String :=
  let space := if kind.isNamespaced then "/namespaces/" ++ «namespace» else ""
  kind.root ++ space ++ "/" ++ kind.plural

/-- A request to an address, which has to be one. -/
def addressed (verb : Verb) (address : String) (body : Option Json := none) :
    Except RequestError ApiRequest :=
  match Uri.parse? address with
  | some uri => .ok { verb, uri, body }
  | none => .error .unaddressable

/-- A name that is fit for an address, where only the empty one is not. -/
def checkName (name : String) : Except RequestError Unit :=
  if name.isEmpty then .error .unaddressable else .ok ()

/-- The wish for an object. -/
def get (kind : Kind) (name «namespace» : String) : Except RequestError ApiRequest := do
  checkName name
  addressed .get (collection kind «namespace» ++ "/" ++ name)

/-- The wish for all objects of a namespace. -/
def list (kind : Kind) («namespace» : String) : Except RequestError ApiRequest :=
  -- The question mark would come before choices, of which there are none.
  addressed .get (collection kind «namespace» ++ "?")

/-- The wish for a new object. -/
def create (kind : Kind) («namespace» : String) (document : Json) :
    Except RequestError ApiRequest :=
  addressed .post (collection kind «namespace» ++ "?") (some document)

/-- The wish for another version of an object, or of a part of it. -/
def replace (kind : Kind) (name «namespace» part : String) (document : Json) :
    Except RequestError ApiRequest := do
  checkName name
  addressed .put (collection kind «namespace» ++ "/" ++ name ++ part ++ "?") (some document)

/-- The wish for changes to an object. -/
def patch (kind : Kind) (name «namespace» : String) (document : Json) :
    Except RequestError ApiRequest :=
  addressed .patch (collection kind «namespace» ++ "/" ++ name ++ "?") (some document)

/-- The wish that an object go. -/
def delete (kind : Kind) (name «namespace» : String) : Except RequestError ApiRequest := do
  checkName name
  addressed .delete (collection kind «namespace» ++ "/" ++ name ++ "?") (some (.object []))

end ApiRequest

end VolumeGroups
