import VolumeGroups.Failure.Cluster
import VolumeGroups.Json.Reader
import VolumeGroups.Manifest.Metadata
import VolumeGroups.Word

/-! Replies by the server of a cluster: what they hold and how they tell of a failure. -/

namespace VolumeGroups

/-- A reply as it comes in. -/
structure ApiReply where
  /-- The code in front of the reply. -/
  status : Nat
  body : String

namespace ApiStatus

/-- The names of the fields, in their own order. -/
def fieldNames : List String := ["status", "code", "message", "metadata", "reason", "details"]

/-- How a request ended, by its word. -/
def readOutcome? (value : Json) : Option Outcome :=
  match value with
  | .text "Success" => some .success
  | .text "Failure" => some .failure
  | _ => none

/-- A code of up to sixteen bits. -/
def readCode? (value : Json) : Option Nat :=
  match value with
  | .integer code => if 0 ≤ code ∧ code < wordBound 16 then some code.toNat else none
  | _ => none

/-- The account in a document, where every field may be missing. -/
def ofJson? (value : Json) : Option ApiStatus := do
  let fields ← value.readRecord? fieldNames
  let outcome ← fields.optional? "status" readOutcome?
  let code ← fields.withDefault? "code" readCode? 0
  let message ← fields.withDefault? "message" Json.readText? ""
  let reason ← fields.withDefault? "reason" Json.readText? ""
  return { outcome, code, message, reason }

/-- The account of a failure that came with words nobody understands. -/
def unparsed (reply : ApiReply) : ApiStatus where
  outcome := some .failure
  code := reply.status
  message := reply.body
  reason := "Failed to parse error data"

end ApiStatus

namespace ApiReply

/-- The document of a reply that tells of no failure. -/
def document (reply : ApiReply) : Except RequestError Json :=
  -- Beyond six hundred codes have no meaning, so nothing is taken for a failure there.
  if 400 ≤ reply.status ∧ reply.status < 600 then
    -- The account itself is believed, even where it contradicts the code in front.
    let account := ((Json.parse? reply.body).bind ApiStatus.ofJson?).getD (.unparsed reply)
    .error (.refused account)
  else
    match Json.parse? reply.body with
    | some value => .ok value
    | none => .error .unreadable

/-- What a reply holds that is to be read in some way. -/
def read {α : Type} (read? : Json → Option α) (reply : ApiReply) : Except RequestError α := do
  match read? (← reply.document) with
  | some value => return value
  | none => throw .unreadable

/-- The data that a list has of its own, of which nothing is kept. -/
def readListData? (value : Json) : Option Unit := do
  let fields ← value.readFields?
  -- What is dropped has to be in order all the same, or the list is no list.
  let _ ← ["continue", "resourceVersion", "selfLink"].mapM fun name =>
    fields.optional? name Json.readText?
  let _ ← fields.optional? "remainingItemCount" Json.readInteger?
  return ()

/-- The objects in the document of a list, where null stands for none. -/
def readItems? {α : Type} [Manifest α] (value : Json) : Option (List α) := do
  let fields ← value.readFields?
  fields.withDefault? "metadata" readListData? ()
  fields.required? "items" fun items =>
    match items with
    -- A server that has nothing to list may write null for its items.
    | .null => some []
    | items => items.readList? Manifest.ofJson?

/-- The document tells that an object is gone or going, by an account or by the object itself. -/
def readDeletion? (α : Type) [Manifest α] (value : Json) : Option Unit :=
  match Json.findMember? "kind" value.members with
  | some (.text "Status") => (ApiStatus.ofJson? value).map fun _ => ()
  | _ => (Manifest.ofJson? (α := α) value).map fun _ => ()

end ApiReply

/-- The failure of a request as the failure of a call on an object. -/
def RequestError.classify (kind : Kind) (name : String) (cause : RequestError) : ClusterError :=
  match cause with
  | .refused status =>
    if status.code = 404 then .notFound kind name
    else if status.code = 409 then
      -- Of the two ways to collide only the reason tells which one it was.
      if status.reason = "AlreadyExists" then .alreadyExists kind name else .conflict kind name
    else .request cause
  | _ => .request cause

end VolumeGroups
