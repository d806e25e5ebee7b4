import VolumeGroups.KeyMap
import VolumeGroups.Wire.Field

/-! Messages as bytes: fields are read in any order, and those that a message does not declare
are passed over. -/

namespace VolumeGroups

/-- How deep messages and groups may lie inside each other. -/
def maximalDepth : Nat := 100

/-- A value taken in step by step from fields, each of which is shown with the depth left. -/
abbrev FieldReader (α : Type) := (depth : Nat) → FieldKey → α → Bytes → Option (α × Bytes)

/-- A value with all fields of some bytes taken in. -/
def readFieldsWith? {α : Type} (read : FieldReader α) (depth : Nat) (value : α) (bytes : Bytes) :
    Option α :=
  if bytes.isEmpty then some value
  else
    match readKey? bytes with
    | none => none
    | some (key, rest) =>
      match read depth key value rest with
      | none => none
      | some (value, rest) =>
        -- Readers that take in no byte would never end, so each step has to leave fewer bytes.
        if rest.length < bytes.length then readFieldsWith? read depth value rest else none
  termination_by bytes.length

/-- A type of messages. -/
class Message (α : Type) where
  /-- The message without any field. -/
  blank : α
  /-- A message with one more field taken in. -/
  readField? : FieldReader α
  /-- The fields of a message as bytes. -/
  write : α → Bytes

namespace Message

variable {α : Type}

/-- The message that some bytes hold. -/
def read? [Message α] (bytes : Bytes) : Option α :=
  readFieldsWith? readField? maximalDepth blank bytes

/-- A value that does not declare a field, which is passed over. -/
def ignore? : FieldReader α := fun depth key value bytes =>
  (skipValue? depth key bytes).map fun rest => (value, rest)

/-- The text of a field. -/
def readText? (key : FieldKey) (bytes : Bytes) : Option (String × Bytes) := do
  guard (key.layout = .delimited)
  let (content, rest) ← readDelimited? bytes
  let text ← String.fromUTF8? ⟨content.toArray⟩
  return (text, rest)

/-- The message of a field, taken into the one that earlier fields of its number gave. -/
def readNested? [Message α] (depth : Nat) (key : FieldKey) (old : Option α) (bytes : Bytes) :
    Option (α × Bytes) := do
  guard (key.layout = .delimited)
  guard (0 < depth)
  let (content, rest) ← readDelimited? bytes
  -- Fields of one number are one message in pieces, so the old one is the start.
  let value ← readFieldsWith? readField? (depth - 1) (old.getD blank) content
  return (value, rest)

/-- The key and the value of an entry, with one more field taken in. -/
def readEntryField? : FieldReader (String × String) := fun depth key entry bytes =>
  match key.number with
  | 1 => (readText? key bytes).map fun (text, rest) => ((text, entry.2), rest)
  | 2 => (readText? key bytes).map fun (text, rest) => ((entry.1, text), rest)
  | _ => ignore? depth key entry bytes

/-- The map with the entry of a field in it. -/
def readEntry? (depth : Nat) (map : KeyMap String) (bytes : Bytes) :
    Option (KeyMap String × Bytes) := do
  guard (0 < depth)
  -- The layout that the field declares is not looked at: an entry always has its count in front.
  let (content, rest) ← readDelimited? bytes
  let (key, value) ← readFieldsWith? readEntryField? (depth - 1) ("", "") content
  return (map.insert key value, rest)

/-- A field with its value in counted bytes. -/
def writeContent (number : Nat) (content : Bytes) : Bytes :=
  FieldKey.write ⟨number, .delimited⟩ ++ writeDelimited content

/-- A text field, which an empty text has no need of. -/
def writeText (number : Nat) (value : String) : Bytes :=
  if value.isEmpty then [] else writeContent number value.toUTF8.toList

/-- A field for every text of a list, empty ones too. -/
def writeTexts (number : Nat) (values : List String) : Bytes :=
  values.flatMap fun value => writeContent number value.toUTF8.toList

/-- A field for a message that is there. -/
def writeNested [Message α] (number : Nat) : Option α → Bytes
  | some value => writeContent number (write value)
  | none => []

/-- A field for every entry of a map, in the order of the keys. -/
def writeMap (number : Nat) (map : KeyMap String) : Bytes :=
  map.entries.flatMap fun (key, value) =>
    writeContent number (writeText 1 key ++ writeText 2 value)

end Message

/-- A message that has no fields. -/
structure EmptyMessage where
  deriving DecidableEq

instance : Message EmptyMessage where
  blank := {}
  readField? := Message.ignore?
  write _ := []

/-- A truth value wrapped up so that it can be missing. -/
structure BoolMessage where
  value : Bool
  deriving DecidableEq

instance : Message BoolMessage where
  blank := ⟨false⟩
  readField? depth key message bytes :=
    match key.number with
    | 1 => do
      guard (key.layout = .varint)
      let (value, rest) ← readVarint? bytes
      return (⟨value != 0⟩, rest)
    | _ => Message.ignore? depth key message bytes
  write message := if message.value then FieldKey.write ⟨1, .varint⟩ ++ writeVarint 1 else []

end VolumeGroups
