import VolumeGroups.DriverClient.Message
import VolumeGroups.Proofs.Wire.Writing

/-! Every message that the operator and a driver exchange reads as what was written, also where
fields that the message does not declare stand among its own. -/

namespace VolumeGroups

open Message

section Taken

variable {α β : Type} {read : FieldReader α} {depth number : Nat} {value : α} {content : Bytes}

/-- A field is taken in by its content alone if the part of the message that it sets is read so. -/
theorem exists_taken {part : Bytes → Option (β × Bytes)} {found : Option β} (set : β → α)
    (takes : ∀ bytes, read depth ⟨number, .delimited⟩ value bytes
      = (part bytes).map fun found => (set found.1, found.2))
    (reads : ∀ count rest, IsVarint content.length count →
      part (count ++ content ++ rest) = found.map fun value => (value, rest)) :
    ∃ next : Option α, ∀ count rest, IsVarint content.length count →
      read depth ⟨number, .delimited⟩ value (count ++ content ++ rest)
        = next.map fun value => (value, rest) := by
  -- The part is set in the message, and the bytes behind it are left.
  refine ⟨found.map set, ?_⟩
  intro count rest counted
  rw [takes, reads count rest counted]
  cases found <;> rfl

/-- A text is taken in by its content alone. -/
theorem exists_taken_text (set : String → α)
    (takes : ∀ bytes, read depth ⟨number, .delimited⟩ value bytes
      = (readText? ⟨number, .delimited⟩ bytes).map fun found => (set found.1, found.2)) :
    ∃ next : Option α, ∀ count rest, IsVarint content.length count →
      read depth ⟨number, .delimited⟩ value (count ++ content ++ rest)
        = next.map fun value => (value, rest) :=
  -- The text sets its part, and what is behind it is left to be read.
  exists_taken set takes fun _ rest counted => readText?_append counted rest

/-- An entry of a map is taken in by its content alone. -/
theorem exists_taken_entry {map : KeyMap String} (set : KeyMap String → α)
    (takes : ∀ bytes, read depth ⟨number, .delimited⟩ value bytes
      = (Message.readEntry? depth map bytes).map fun found => (set found.1, found.2)) :
    ∃ next : Option α, ∀ count rest, IsVarint content.length count →
      read depth ⟨number, .delimited⟩ value (count ++ content ++ rest)
        = next.map fun value => (value, rest) :=
  -- The entry joins those of the map that was read so far.
  exists_taken set takes fun _ rest counted => readEntry?_append counted map rest

/-- A message is taken in by its content alone. -/
theorem exists_taken_nested [Message β] {old : Option β} (set : β → α)
    (takes : ∀ bytes, read depth ⟨number, .delimited⟩ value bytes
      = (readNested? depth ⟨number, .delimited⟩ old bytes).map fun found =>
        (set found.1, found.2)) :
    ∃ next : Option α, ∀ count rest, IsVarint content.length count →
      read depth ⟨number, .delimited⟩ value (count ++ content ++ rest)
        = next.map fun value => (value, rest) :=
  -- The message is put together with the one that earlier fields gave.
  exists_taken set takes fun _ rest counted => readNested?_append counted old rest

end Taken

/-- Messages of a type read as what was written, if as many messages as they hold may lie inside
each other. -/
structure Message.IsFaithful (α : Type) [Message α] (declared : List Nat) (height : Nat) :
    Prop where
  lawful : (readField? : FieldReader α).IsLawful declared
  whole : ∀ message : α, (write message).length < wordBound 64 →
    Interspersed declared (write message) (write message)
  turns : ∀ (depth : Nat) (message : α), height ≤ depth → (write message).length < wordBound 64 →
    readField?.Turns depth blank (write message) message

theorem EmptyMessage.isFaithful : IsFaithful EmptyMessage [] 0 where
  lawful :=
    { ignores := fun _ _ _ _ _ => rfl
      takesContent := fun _ _ value _ =>
        ⟨_, fun _ rest counted => ignore?_append counted value rest⟩ }
  whole _ _ := .done
  turns _ _ _ _ := .nil

/-- A wrapped truth value reads as what was written, be it left out or not. -/
theorem BoolMessage.turns (depth : Nat) (message : BoolMessage) :
    readField?.Turns depth blank (write message) message := by
  obtain ⟨value⟩ := message
  cases value with
  -- The default is left out, and a blank message has it.
  | false => exact .nil
  | true =>
    intro rest
    have one : IsVarint 1 (writeVarint 1) := isVarint_writeVarint (by decide)
    refine readFieldsWith?_append_of_eq_some
      (FieldKey.isSpelled_write (show 0 < 1 by decide) (by decide)) ?_
    simp [readField?, guard, one.readVarint?_append rest]

theorem ProbeResponse.isFaithful : IsFaithful ProbeResponse [1] 1 where
  lawful :=
    { ignores := by
        intro depth key value bytes foreign
        simp only [readField?]
        -- The declared number is not the one of the field.
        split <;> simp_all
      takesContent := by
        intro depth number value content
        match number with
        | 1 =>
          exact exists_taken_nested (fun message : BoolMessage => ⟨some message.value⟩)
            fun _ => rfl
        | 0 | n + 2 => exact ⟨_, fun _ rest counted => ignore?_append counted value rest⟩ }
  whole message fits := interspersed_writeNested (by decide) fits
  turns depth message deep fits := by
    obtain ⟨ready⟩ := message
    have turns : readField?.Turns depth (ProbeResponse.mk none)
        (writeNested 1 (ready.map BoolMessage.mk))
        ⟨(ready.map BoolMessage.mk).map BoolMessage.value⟩ :=
      turns_writeNested (ProbeResponse.mk ∘ Option.map BoolMessage.value) deep (by decide) fits
        (fun value _ => BoolMessage.turns _ value) fun _ => rfl
    -- Wrapping a truth value and taking it out again leaves it, be it there or not.
    have same : (ready.map BoolMessage.mk).map BoolMessage.value = ready := by cases ready <;> rfl
    rw [same] at turns
    exact turns

theorem PluginInfo.isFaithful : IsFaithful PluginInfo [1, 2, 3] 1 where
  lawful :=
    { ignores := by
        intro depth key value bytes foreign
        simp only [readField?]
        split <;> simp_all
      takesContent := by
        intro depth number value content
        -- The declared numbers set a part each, and any other one is passed over.
        match number with
        | 1 => exact exists_taken_text (fun name => { value with name }) fun _ => rfl
        | 2 =>
          exact exists_taken_text (fun vendorVersion => { value with vendorVersion }) fun _ => rfl
        | 3 => exact exists_taken_entry (fun manifest => { value with manifest }) fun _ => rfl
        | 0 | n + 4 => exact ⟨_, fun _ rest counted => ignore?_append counted value rest⟩ }
  whole message fits := by
    -- The parts are written one after another.
    simp only [write, List.length_append] at fits
    exact ((interspersed_writeText (by decide) (by omega)).append
      (interspersed_writeText (by decide) (by omega))).append
        (interspersed_writeMap (by decide) (by omega))
  turns depth message deep fits := by
    obtain ⟨name, vendorVersion, manifest⟩ := message
    -- Each part is taken in on top of those before it, beginning with a blank message.
    simp only [write, List.length_append] at fits
    have named : readField?.Turns depth (PluginInfo.mk "" "" ∅) (writeText 1 name) ⟨name, "", ∅⟩ :=
      turns_writeText (PluginInfo.mk · "" ∅) (by decide) (by omega) fun _ => rfl
    have versioned : readField?.Turns depth (PluginInfo.mk name "" ∅) (writeText 2 vendorVersion)
        ⟨name, vendorVersion, ∅⟩ :=
      turns_writeText (PluginInfo.mk name · ∅) (by decide) (by omega) fun _ => rfl
    have filled : readField?.Turns depth (PluginInfo.mk name vendorVersion ∅) (writeMap 3 manifest)
        ⟨name, vendorVersion, manifest⟩ :=
      turns_writeMap (PluginInfo.mk name vendorVersion) deep (by decide) (by omega) fun _ _ => rfl
    exact (named.append versioned).append filled

theorem CreateGroupRequest.isFaithful : IsFaithful CreateGroupRequest [1, 2, 3] 1 where
  lawful :=
    { ignores := by
        intro depth key value bytes foreign
        -- A number that is not declared is one of no case of the reader.
        simp only [readField?]
        split <;> simp_all
      takesContent := by
        intro depth number value content
        match number with
        | 1 => exact exists_taken_text (fun name => { value with name }) fun _ => rfl
        | 2 => exact exists_taken_entry (fun parameters => { value with parameters }) fun _ => rfl
        | 3 => exact exists_taken_entry (fun secrets => { value with secrets }) fun _ => rfl
        | 0 | n + 4 => exact ⟨_, fun _ rest counted => ignore?_append counted value rest⟩ }
  whole message fits := by
    -- The parts are written one after another, and none holds anything else in between.
    simp only [write, List.length_append] at fits
    exact ((interspersed_writeText (by decide) (by omega)).append
      (interspersed_writeMap (by decide) (by omega))).append
        (interspersed_writeMap (by decide) (by omega))
  turns depth message deep fits := by
    obtain ⟨name, parameters, secrets⟩ := message
    -- No part is longer than the message, so the count of each one is small enough.
    simp only [write, List.length_append] at fits
    have named : readField?.Turns depth (CreateGroupRequest.mk "" ∅ ∅) (writeText 1 name)
        ⟨name, ∅, ∅⟩ :=
      turns_writeText (CreateGroupRequest.mk · ∅ ∅) (by decide) (by omega) fun _ => rfl
    have adjusted : readField?.Turns depth (CreateGroupRequest.mk name ∅ ∅) (writeMap 2 parameters)
        ⟨name, parameters, ∅⟩ :=
      turns_writeMap (CreateGroupRequest.mk name · ∅) deep (by decide) (by omega) fun _ _ => rfl
    have trusted : readField?.Turns depth (CreateGroupRequest.mk name parameters ∅)
        (writeMap 3 secrets) ⟨name, parameters, secrets⟩ :=
      turns_writeMap (CreateGroupRequest.mk name parameters) deep (by decide) (by omega)
        fun _ _ => rfl
    exact (named.append adjusted).append trusted

theorem CreatedGroup.isFaithful : IsFaithful CreatedGroup [1, 2] 1 where
  lawful :=
    { ignores := by
        intro depth key value bytes foreign
        simp only [readField?]
        split <;> simp_all
      takesContent := by
        intro depth number value content
        match number with
        | 1 => exact exists_taken_text (fun handle => { value with handle }) fun _ => rfl
        | 2 => exact exists_taken_entry (fun attributes => { value with attributes }) fun _ => rfl
        | 0 | n + 3 => exact ⟨_, fun _ rest counted => ignore?_append counted value rest⟩ }
  whole message fits := by
    -- The handle comes first and the attributes behind it.
    simp only [write, List.length_append] at fits
    exact (interspersed_writeText (by decide) (by omega)).append
      (interspersed_writeMap (by decide) (by omega))
  turns depth message deep fits := by
    obtain ⟨handle, attributes⟩ := message
    simp only [write, List.length_append] at fits
    -- The handle is taken in first, and then the attributes one by one.
    have named : readField?.Turns depth (CreatedGroup.mk "" ∅) (writeText 1 handle) ⟨handle, ∅⟩ :=
      turns_writeText (CreatedGroup.mk · ∅) (by decide) (by omega) fun _ => rfl
    have described : readField?.Turns depth (CreatedGroup.mk handle ∅) (writeMap 2 attributes)
        ⟨handle, attributes⟩ :=
      turns_writeMap (CreatedGroup.mk handle) deep (by decide) (by omega) fun _ _ => rfl
    exact named.append described

theorem GroupResponse.isFaithful : IsFaithful GroupResponse [1] 2 where
  lawful :=
    { ignores := by
        intro depth key value bytes foreign
        simp only [readField?]
        split <;> simp_all
      takesContent := by
        intro depth number value content
        match number with
        | 1 => exact exists_taken_nested (fun group : CreatedGroup => ⟨some group⟩) fun _ => rfl
        | 0 | n + 2 => exact ⟨_, fun _ rest counted => ignore?_append counted value rest⟩ }
  -- The group is the only field.
  whole message fits := interspersed_writeNested (by decide) fits
  turns depth message deep fits := by
    refine turns_writeNested GroupResponse.mk (by omega) (by decide) fits ?_ fun _ => rfl
    intro group there
    -- The group lies one message deeper, and is no longer than the response that holds it.
    obtain ⟨held⟩ := message
    subst there
    exact CreatedGroup.isFaithful.turns _ group (by omega)
      (Nat.lt_of_le_of_lt length_le_writeContent fits)

theorem DeleteGroupRequest.isFaithful : IsFaithful DeleteGroupRequest [1, 2] 1 where
  lawful :=
    { ignores := by
        intro depth key value bytes foreign
        simp only [readField?]
        split <;> simp_all
      takesContent := by
        intro depth number value content
        -- The declared numbers set a part each.
        match number with
        | 1 => exact exists_taken_text (fun handle => { value with handle }) fun _ => rfl
        | 2 => exact exists_taken_entry (fun secrets => { value with secrets }) fun _ => rfl
        | 0 | n + 3 => exact ⟨_, fun _ rest counted => ignore?_append counted value rest⟩ }
  whole message fits := by
    simp only [write, List.length_append] at fits
    exact (interspersed_writeText (by decide) (by omega)).append
      (interspersed_writeMap (by decide) (by omega))
  turns depth message deep fits := by
    -- The handle is a text, and the credentials are entries of a map.
    obtain ⟨handle, secrets⟩ := message
    simp only [write, List.length_append] at fits
    have named : readField?.Turns depth (DeleteGroupRequest.mk "" ∅) (writeText 1 handle)
        ⟨handle, ∅⟩ :=
      turns_writeText (DeleteGroupRequest.mk · ∅) (by decide) (by omega) fun _ => rfl
    have trusted : readField?.Turns depth (DeleteGroupRequest.mk handle ∅) (writeMap 2 secrets)
        ⟨handle, secrets⟩ :=
      turns_writeMap (DeleteGroupRequest.mk handle) deep (by decide) (by omega) fun _ _ => rfl
    exact named.append trusted

namespace ModifyMembershipRequest

/-- The request with another volume behind those it has. -/
def addVolumeId (request : ModifyMembershipRequest) (id : String) : ModifyMembershipRequest :=
  { request with volumeIds := request.volumeIds ++ [id] }

/-- Volumes that are added one by one come to stand in their order behind those that were there. -/
theorem foldl_addVolumeId (request : ModifyMembershipRequest) (ids : List String) :
    ids.foldl addVolumeId request = { request with volumeIds := request.volumeIds ++ ids } := by
  induction ids generalizing request with
  | nil => simp
  | cons id rest ih => simp [ih, addVolumeId]

theorem isFaithful : IsFaithful ModifyMembershipRequest [1, 2, 3] 1 where
  lawful :=
    { ignores := by
        intro depth key value bytes foreign
        simp only [readField?]
        split <;> simp_all
      takesContent := by
        intro depth number value content
        match number with
        | 1 => exact exists_taken_text (fun handle => { value with handle }) fun _ => rfl
        -- Volumes come one to a field, so each is added behind those before it.
        | 2 => exact exists_taken_text value.addVolumeId fun _ => rfl
        | 3 => exact exists_taken_entry (fun secrets => { value with secrets }) fun _ => rfl
        | 0 | n + 4 => exact ⟨_, fun _ rest counted => ignore?_append counted value rest⟩ }
  whole message fits := by
    simp only [write, List.length_append] at fits
    exact ((interspersed_writeText (by decide) (by omega)).append
      (interspersed_writeTexts (by decide) (by omega))).append
        (interspersed_writeMap (by decide) (by omega))
  turns depth message deep fits := by
    obtain ⟨handle, volumeIds, secrets⟩ := message
    -- The fields are taken in by their numbers, where a volume may be any text.
    simp only [write, List.length_append] at fits
    have named : readField?.Turns depth (ModifyMembershipRequest.mk "" [] ∅) (writeText 1 handle)
        ⟨handle, [], ∅⟩ :=
      turns_writeText (ModifyMembershipRequest.mk · [] ∅) (by decide) (by omega) fun _ => rfl
    have listed : readField?.Turns depth (ModifyMembershipRequest.mk handle [] ∅)
        (writeTexts 2 volumeIds) ⟨handle, volumeIds, ∅⟩ := by
      -- Each volume is added behind the earlier ones, so they keep their order.
      have turns : readField?.Turns depth (ModifyMembershipRequest.mk handle [] ∅)
          (writeTexts 2 volumeIds) (volumeIds.foldl addVolumeId ⟨handle, [], ∅⟩) :=
        turns_writeTexts addVolumeId (by decide) (by omega) fun _ _ => rfl
      rwa [foldl_addVolumeId] at turns
    have trusted : readField?.Turns depth (ModifyMembershipRequest.mk handle volumeIds ∅)
        (writeMap 3 secrets) ⟨handle, volumeIds, secrets⟩ :=
      turns_writeMap (ModifyMembershipRequest.mk handle volumeIds) deep (by decide) (by omega)
        fun _ _ => rfl
    exact (named.append listed).append trusted

end ModifyMembershipRequest

/-- The messages that the operator and a driver exchange. -/
inductive DriverMessage where
  | probeRequest
  | probeResponse
  | pluginInfoRequest
  | pluginInfoResponse
  | createGroupRequest
  | createGroupResponse
  /-- The group that responses hold. -/
  | createdGroup
  | deleteGroupRequest
  | deleteGroupResponse
  | modifyMembershipRequest
  | modifyMembershipResponse

namespace DriverMessage

/-- What a message says. -/
@[reducible] def Content : DriverMessage → Type
  | probeRequest | pluginInfoRequest | deleteGroupResponse => EmptyMessage
  | probeResponse => ProbeResponse
  | pluginInfoResponse => PluginInfo
  | createGroupRequest => CreateGroupRequest
  | createGroupResponse | modifyMembershipResponse => GroupResponse
  | createdGroup => CreatedGroup
  | deleteGroupRequest => DeleteGroupRequest
  | modifyMembershipRequest => ModifyMembershipRequest

instance : (kind : DriverMessage) → Message kind.Content
  | probeRequest | pluginInfoRequest | deleteGroupResponse => inferInstanceAs (Message EmptyMessage)
  | probeResponse => inferInstanceAs (Message ProbeResponse)
  | pluginInfoResponse => inferInstanceAs (Message PluginInfo)
  | createGroupRequest => inferInstanceAs (Message CreateGroupRequest)
  | createGroupResponse | modifyMembershipResponse => inferInstanceAs (Message GroupResponse)
  | createdGroup => inferInstanceAs (Message CreatedGroup)
  | deleteGroupRequest => inferInstanceAs (Message DeleteGroupRequest)
  | modifyMembershipRequest => inferInstanceAs (Message ModifyMembershipRequest)

/-- The numbers of the fields that a message declares. -/
def declared : DriverMessage → List Nat
  | probeRequest | pluginInfoRequest | deleteGroupResponse => []
  | probeResponse | createGroupResponse | modifyMembershipResponse => [1]
  | createdGroup | deleteGroupRequest => [1, 2]
  | pluginInfoResponse | createGroupRequest | modifyMembershipRequest => [1, 2, 3]

/-- How many messages and entries may lie inside each other in a message, itself counted. -/
def height : DriverMessage → Nat
  | probeRequest | pluginInfoRequest | deleteGroupResponse => 0
  | createGroupResponse | modifyMembershipResponse => 2
  | _ => 1

theorem isFaithful (kind : DriverMessage) :
    IsFaithful kind.Content kind.declared kind.height := by
  -- Three kinds share the message without fields, and two the response with a group.
  cases kind with
  | probeRequest | pluginInfoRequest | deleteGroupResponse => exact EmptyMessage.isFaithful
  | probeResponse => exact ProbeResponse.isFaithful
  | pluginInfoResponse => exact PluginInfo.isFaithful
  | createGroupRequest => exact CreateGroupRequest.isFaithful
  | createGroupResponse | modifyMembershipResponse => exact GroupResponse.isFaithful
  | createdGroup => exact CreatedGroup.isFaithful
  | deleteGroupRequest => exact DeleteGroupRequest.isFaithful
  | modifyMembershipRequest => exact ModifyMembershipRequest.isFaithful

/-- Every message whose bytes a word can count, as all are that fit in memory, reads as what was
written. Its bytes are whole fields, and any fields whose numbers the message does not declare may
stand before, between and behind them without making a difference. -/
theorem reads_as_written (kind : DriverMessage) (message : kind.Content)
    (fits : (write message).length < wordBound 64) :
    read? (write message) = some message ∧
      Interspersed kind.declared (write message) (write message) ∧
      ∀ bytes, Interspersed kind.declared (write message) bytes → read? bytes = some message := by
  have faithful := kind.isFaithful
  -- No message holds more others inside each other than readers allow.
  have shallow : kind.height ≤ maximalDepth := by cases kind <;> decide
  have reads : read? (write message) = some message :=
    (faithful.turns maximalDepth message shallow fits).readFieldsWith?_eq
  refine ⟨reads, faithful.whole message fits, ?_⟩
  intro bytes inserted
  rw [← reads]
  exact inserted.readFieldsWith?_eq faithful.lawful blank

end DriverMessage

namespace Sample

/-- A request with an empty volume name and with credentials under an empty key. -/
def oddRequest : ModifyMembershipRequest :=
  { handle := "group", volumeIds := ["", "volume"], secrets := KeyMap.singleton "" "word" }

/-- The bytes of the request among fields of four other numbers, where the number and the count of
the first and the last one are spelled longer than they need to be. -/
def oddBytes : Bytes :=
  [0x20, 0x81, 0x00] ++ writeContent 1 "group".toUTF8.toList
    ++ [0x29, 0, 1, 2, 3, 4, 5, 6, 7] ++ writeContent 2 []
    ++ [0x35, 0, 1, 2, 3] ++ writeContent 2 "volume".toUTF8.toList
    ++ writeContent 3 (writeContent 2 "word".toUTF8.toList) ++ [0x3a, 0x81, 0x00, 0xff]

/-- The number one with a group that it has no need of. -/
theorem isVarint_padded : IsVarint 1 [0x81, 0x00] :=
  have spelled : Spells ((0x81 : UInt8).toNat - 128 + 128 * (0x00 : UInt8).toNat) [0x81, 0x00] :=
    .more (by decide) (.last (by decide))
  ⟨spelled, by decide, by decide⟩

/-- A key that takes a single byte. -/
theorem isSpelled_byte {key : FieldKey} {byte : UInt8}
    (same : byte.toNat = 8 * key.number + key.layout.code) (ends : byte.toNat < 128)
    (numbered : 0 < key.number) : key.IsSpelled [byte] where
  varint := ⟨same ▸ .last ends, by simp, Nat.lt_trans (same ▸ ends) (by decide)⟩
  numbered := numbered
  small := Nat.lt_trans (same ▸ ends) (by decide)

theorem interspersed_oddBytes : Interspersed [1, 2, 3] (write oddRequest) oddBytes := by
  -- The four fields of other numbers, each with its key in one byte.
  have front : IsField ⟨4, .varint⟩ [0x20, 0x81, 0x00] :=
    .mk (isSpelled_byte (by decide) (by decide) (by decide)) (.varint isVarint_padded)
  have wide : IsField ⟨5, .fixed64⟩ [0x29, 0, 1, 2, 3, 4, 5, 6, 7] :=
    .mk (isSpelled_byte (by decide) (by decide) (by decide)) (.fixed64 rfl)
  have narrow : IsField ⟨6, .fixed32⟩ [0x35, 0, 1, 2, 3] :=
    .mk (isSpelled_byte (by decide) (by decide) (by decide)) (.fixed32 rfl)
  have behind : IsField ⟨7, .delimited⟩ [0x3a, 0x81, 0x00, 0xff] :=
    .mk (isSpelled_byte (by decide) (by decide) (by decide))
      (show IsValue .delimited ([0x81, 0x00] ++ [0xff]) from .delimited isVarint_padded)
  -- The four fields of the request.
  have handle : IsField ⟨1, .delimited⟩ (writeContent 1 "group".toUTF8.toList) :=
    isField_writeContent (by decide) (by decide +kernel)
  have unnamed : IsField ⟨2, .delimited⟩ (writeContent 2 []) :=
    isField_writeContent (by decide) (by decide +kernel)
  have volume : IsField ⟨2, .delimited⟩ (writeContent 2 "volume".toUTF8.toList) :=
    isField_writeContent (by decide) (by decide +kernel)
  have secret :
      IsField ⟨3, .delimited⟩ (writeContent 3 (writeContent 2 "word".toUTF8.toList)) :=
    isField_writeContent (by decide) (by decide +kernel)
  -- The fields lie in the bytes in this order, built up from the last one.
  have inserted := (.done : Interspersed [1, 2, 3] [] [])
    |>.insert (by decide) behind
    |>.keep secret
    |>.keep volume
    |>.insert (by decide) narrow
    |>.keep unnamed
    |>.insert (by decide) wide
    |>.keep handle
    |>.insert (by decide) front
  -- The request itself has its own four fields only.
  have written : write oddRequest = writeContent 1 "group".toUTF8.toList ++ (writeContent 2 []
      ++ (writeContent 2 "volume".toUTF8.toList
        ++ (writeContent 3 (writeContent 2 "word".toUTF8.toList) ++ []))) := by
    decide +kernel
  rw [written]
  simpa [oddBytes] using inserted

/-- A request with an empty volume name reads as what was written among fields of other numbers. -/
theorem reads_odd_request :
    (write oddRequest).length < wordBound 64 ∧ Interspersed [1, 2, 3] (write oddRequest) oddBytes ∧
      oddBytes ≠ write oddRequest ∧ read? (write oddRequest) = some oddRequest ∧
      read? oddBytes = some oddRequest := by
  -- The request is short, so its bytes can be counted.
  have fits : (write oddRequest).length < wordBound 64 := by decide +kernel
  obtain ⟨plain, _, among⟩ :=
    DriverMessage.reads_as_written .modifyMembershipRequest oddRequest fits
  exact ⟨fits, interspersed_oddBytes, by decide +kernel, plain, among _ interspersed_oddBytes⟩

end Sample

end VolumeGroups
