import VolumeGroups.Api.Event
import VolumeGroups.Api.Request

/-! The calls on a cluster, carried out as requests to its server. -/

namespace VolumeGroups

/-- A connection to a server whose replies are given request by request. -/
structure ApiSession where
  /-- What the server will reply. -/
  replies : List ApiReply
  /-- The requests so far, the earliest first. -/
  requests : List ApiRequest := []
  /-- The events the server took so far. -/
  events : List PublishedEvent := []

namespace ApiSession

variable {α : Type}

/-- A request sent and its reply read. -/
def send (session : ApiSession) (request : Except RequestError ApiRequest)
    (read : ApiReply → Except RequestError α) : Except RequestError α × ApiSession :=
  match request with
  -- What cannot be addressed is never sent.
  | .error cause => (.error cause, session)
  | .ok request =>
    let session := { session with requests := session.requests ++ [request] }
    match session.replies with
    | [] => (.error .unanswered, session)
    | reply :: replies => (read reply, { session with replies })

/-- A call on an object, whose failures are told of that object. -/
def callOn (kind : Kind) (name : String) (session : ApiSession)
    (request : Except RequestError ApiRequest) (read : ApiReply → Except RequestError α) :
    Except ClusterError α × ApiSession :=
  let (result, session) := session.send request read
  (result.mapError (RequestError.classify kind name), session)

variable [Resource α] [Manifest α]

/-- Get an object. -/
def get (session : ApiSession) (name «namespace» : String) : Except ClusterError α × ApiSession :=
  let kind := Resource.kind α
  callOn kind name session (ApiRequest.get kind name «namespace»)
    (ApiReply.read Manifest.ofJson?)

/-- List the objects of a namespace. -/
def list (session : ApiSession) («namespace» : String) :
    Except ClusterError (List α) × ApiSession :=
  let kind := Resource.kind α
  callOn kind «namespace» session (ApiRequest.list kind «namespace»)
    (ApiReply.read ApiReply.readItems?)

/-- A call that writes an object, which has to live in a namespace. -/
def write (session : ApiSession) (object : α)
    (request : String → Except RequestError ApiRequest) : Except ClusterError α × ApiSession :=
  match (Resource.metadata object).namespace with
  -- An object without a namespace is refused before anything goes out to the server.
  | none => (.error (.object .noNamespace), session)
  | some space =>
    callOn (Resource.kind α) (Resource.displayName object) session (request space)
      (ApiReply.read Manifest.ofJson?)

/-- Create an object. -/
def create (session : ApiSession) (object : α) : Except ClusterError α × ApiSession :=
  session.write object fun space =>
    ApiRequest.create (Resource.kind α) space (Manifest.document object)

/-- Replace an object. -/
def replace (session : ApiSession) (object : α) : Except ClusterError α × ApiSession :=
  session.write object fun space =>
    ApiRequest.replace (Resource.kind α) (Resource.displayName object) space ""
      (Manifest.document object)

/-- Replace the observed state of an object. -/
def replaceStatus (session : ApiSession) (object : α) : Except ClusterError α × ApiSession :=
  session.write object fun space =>
    ApiRequest.replace (Resource.kind α) (Resource.displayName object) space "/status"
      (Manifest.document object)

/-- Delete an object. -/
def delete (α : Type) [Resource α] [Manifest α] (session : ApiSession)
    (name «namespace» : String) : Except ClusterError Unit × ApiSession :=
  let kind := Resource.kind α
  callOn kind name session (ApiRequest.delete kind name «namespace»)
    (ApiReply.read (ApiReply.readDeletion? α))

/-- Tell an event, or count it if the server took one that tells the same. -/
def record (session : ApiSession) (event : Event) : Except ClusterError Unit × ApiSession :=
  let space := eventNamespace event.regarding
  let known := session.events.find? fun published => event.repeats published.event
  -- Events that tell the same are one document on the server, whose count goes up.
  let next : PublishedEvent := match known with
    | some published => { published with count := published.count + 1 }
    | none => { event, count := 1 }
  let document := next.event.toJson next.count
  let request : Except RequestError ApiRequest :=
    if known.isSome then ApiRequest.patch .event (eventName event.regarding) space document
    else ApiRequest.create .event space document
  let (result, session) := session.send request (ApiReply.read Event.readAcceptance?)
  -- Only what the server took counts.
  let session := match result with
    | .ok () =>
      let others := session.events.filter fun published => !event.repeats published.event
      { session with events := next :: others }
    | .error _ => session
  (result.mapError .event, session)

end ApiSession

end VolumeGroups
