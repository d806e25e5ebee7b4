import VolumeGroups.DriverClient.Message
import VolumeGroups.Uri

/-! Calls of a storage driver over a line whose other end answers request by request. -/

namespace VolumeGroups

/-- What the other end does with a request. -/
inductive Reply where
  /-- Nothing ever comes back. -/
  | silence
  /-- A message may come back, and then a code with some words, where zero tells success. -/
  | answer (content : Option Bytes) (code : Nat) (words : String)

/-- A request as it goes out. -/
structure DriverRequest where
  path : String
  /-- How long the driver is told it may take, if it is told. -/
  limit : Option Duration := none
  content : Bytes

/-- A line to a driver. -/
structure Line where
  /-- What the other end will do, request by request. -/
  replies : List Reply
  /-- The requests so far, the earliest first. -/
  requests : List DriverRequest := []
  /-- How long the caller has waited so far. -/
  waited : Duration := ⟨0⟩

namespace Line

/-- The line after some waiting. -/
def wait (line : Line) (duration : Duration) : Line :=
  { line with waited := ⟨line.waited.nanoseconds + duration.nanoseconds⟩ }

/-- The message that an answer holds, or why it holds none. -/
def readAnswer {α : Type} [Message α] (method : String) (content : Option Bytes) (code : Nat)
    (words : String) : Except DriverError α :=
  match content with
  | none =>
    -- Success without a message is no answer to anything.
    if code = StatusCode.ok then .error (.status method StatusCode.internal none)
    else .error (.status method code (some words))
  | some bytes =>
    match Message.read? bytes with
    | none => .error (.status method StatusCode.internal none)
    | some value =>
      if code = StatusCode.ok then .ok value else .error (.status method code (some words))

/-- A request sent and its answer awaited, for no longer than a limit. -/
def call {α : Type} [Message α] (line : Line) (method : String) (limit : Duration)
    (request : DriverRequest) : Except DriverError α × Line :=
  let line := { line with requests := line.requests ++ [request] }
  match line.replies with
  -- An end that does not know what to do says that it does not offer the call.
  | [] => (.error (.status method StatusCode.unimplemented none), line)
  | reply :: replies =>
    let line := { line with replies }
    match reply with
    | .silence => (.error (.timeout method limit), line.wait limit)
    | .answer content code words => (readAnswer method content code words, line)

/-- The replies left after a call are those before it without the first. -/
theorem replies_call {α : Type} [Message α] (line : Line) (method : String) (limit : Duration)
    (request : DriverRequest) :
    (line.call (α := α) method limit request).2.replies = line.replies.tail := by
  -- A call takes one reply whatever that reply is.
  unfold call
  cases hold : line.replies with
  | nil => simp
  | cons reply rest => cases reply <;> simp [wait]

end Line

/-- A client of a driver, which gives up on every call after the same time. -/
structure DriverClient where
  limit : Duration
  deriving DecidableEq, Inhabited

namespace DriverClient

/-- The path of a call about the driver itself. -/
def identityPath (method : String) : String := "/csi.v1.Identity/" ++ method

/-- The path of a call about groups. -/
def controllerPath (method : String) : String := "/csi.v1.Controller/" ++ method

/-- A call about groups, in which the driver is told how long it may take. -/
def command {α β : Type} [Message α] [Message β] (client : DriverClient) (method : String)
    (request : α) (line : Line) : Except DriverError β × Line :=
  line.call method client.limit
    { path := controllerPath method, limit := some client.limit, content := Message.write request }

/-- A question about the driver itself. -/
def inquire {α : Type} [Message α] (client : DriverClient) (method : String) (line : Line) :
    Except DriverError α × Line :=
  line.call method client.limit
    { path := identityPath method, content := Message.write ({} : EmptyMessage) }

/-- Make a group, and tell what the driver made. -/
def createGroup (client : DriverClient) (name : String) (secrets parameters : KeyMap String)
    (line : Line) : Except DriverError CreatedGroup × Line :=
  let request : CreateGroupRequest := { name, parameters, secrets }
  let (answer, line) := client.command (β := GroupResponse) DriverMethod.create request line
  -- The message allows an answer without a group, which is of no use to the caller.
  let created := answer.bind fun response =>
    match response.group with
    | some group => .ok group
    | none => .error (.missingGroup DriverMethod.create)
  (created, line)

/-- Make the driver forget a group. -/
def deleteGroup (client : DriverClient) (handle : String) (secrets : KeyMap String)
    (line : Line) : Except DriverError Unit × Line :=
  let request : DeleteGroupRequest := { handle, secrets }
  let (answer, line) := client.command (β := EmptyMessage) DriverMethod.delete request line
  (answer.map fun _ => (), line)

/-- Make a group hold certain volumes and no others. -/
def modifyMembership (client : DriverClient) (handle : String) (volumeIds : List String)
    (secrets : KeyMap String) (line : Line) : Except DriverError Unit × Line :=
  let request : ModifyMembershipRequest := { handle, volumeIds, secrets }
  let (answer, line) := client.command (β := GroupResponse) DriverMethod.modify request line
  (answer.map fun _ => (), line)

/-- The name the driver gives itself. -/
def pluginName (client : DriverClient) (line : Line) : Except DriverError String × Line :=
  let (answer, line) := client.inquire (α := PluginInfo) DriverMethod.pluginInfo line
  (answer.map PluginInfo.name, line)

/-- The answer to a probe means that the driver is ready. -/
def isReady (answer : Except DriverError ProbeResponse) : Bool :=
  match answer with
  | .ok response => response.ready.getD true
  -- A driver without probes has no way to say that it is not ready.
  | .error error => error.code? == some StatusCode.unimplemented

/-- How long to wait before the next probe. -/
def probeInterval : Duration := .ofSeconds 1

/-- Probe the driver until it is ready. -/
def waitUntilReady (client : DriverClient) (line : Line) : Line :=
  let (answer, after) := client.inquire (α := ProbeResponse) DriverMethod.probe line
  if isReady answer then after
  -- A line with nothing left to reply has just declined the probe, so some reply was taken.
  else if after.replies.length < line.replies.length then
    client.waitUntilReady (after.wait probeInterval)
  else after
  termination_by line.replies.length

end DriverClient

/-- Where a driver is reached. -/
inductive Endpoint where
  /-- At a socket of this machine. -/
  | socket (path : String)
  /-- At an address of the web. -/
  | web (uri : Uri)
  deriving DecidableEq

namespace Endpoint

/-- The scheme of an address that names a socket outright. -/
def socketScheme : String := "unix://"

/-- What follows the front part of a text, if the text starts with it. -/
def after? (front value : String) : Option String :=
  if front.toList.isPrefixOf value.toList then
    some (String.ofList (value.toList.drop front.length))
  else none

/-- Where an address points: to a socket, unless it is an address of the web. -/
def ofAddress (address : String) : Except ConnectError Endpoint :=
  match after? socketScheme address with
  -- Everything behind the scheme of sockets is a path, whatever it looks like.
  | some path => .ok (.socket path)
  | none =>
    -- Only what looks like an address of the web is read as one, everything else is a path.
    if (after? "http://" address).isSome || (after? "https://" address).isSome then
      match Uri.parse? address with
      | some uri => .ok (.web uri)
      | none => .error .malformed
    else .ok (.socket address)

end Endpoint

/-- A client of the driver at an address, given where drivers answer. -/
def DriverClient.connect (answers : Endpoint → Bool) (address : String) (limit : Duration) :
    Except DriverError DriverClient :=
  match Endpoint.ofAddress address with
  | .error cause => .error (.connect address cause)
  | .ok endpoint =>
    if answers endpoint then .ok { limit } else .error (.connect address .unreachable)

end VolumeGroups
