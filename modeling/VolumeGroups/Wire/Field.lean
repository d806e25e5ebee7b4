import VolumeGroups.Wire.Varint
import VolumeGroups.Word

/-! Fields of messages: the key in front of each one, and how the value behind it is passed over. -/

namespace VolumeGroups

/-- How a field's value is laid out. -/
inductive WireType where
  | varint
  | fixed64
  | delimited
  | startGroup
  | endGroup
  | fixed32
  deriving DecidableEq

namespace WireType

/-- The number of a layout. -/
def code : WireType → Nat
  | .varint => 0
  | .fixed64 => 1
  | .delimited => 2
  | .startGroup => 3
  | .endGroup => 4
  | .fixed32 => 5

/-- The layout of a number. -/
def ofCode? : Nat → Option WireType
  | 0 => some .varint
  | 1 => some .fixed64
  | 2 => some .delimited
  | 3 => some .startGroup
  | 4 => some .endGroup
  | 5 => some .fixed32
  | _ => none

end WireType

/-- What stands in front of a field's value. -/
structure FieldKey where
  number : Nat
  layout : WireType
  deriving DecidableEq

/-- A key as bytes. -/
def FieldKey.write (key : FieldKey) : Bytes := writeVarint (8 * key.number + key.layout.code)

/-- The key at the front of some bytes, which fits in thirty-two bits and has no number zero. -/
def readKey? (bytes : Bytes) : Option (FieldKey × Bytes) := do
  let (value, rest) ← readVarint? bytes
  guard (value < wordBound 32)
  -- The lower three bits are the layout, the others are the number.
  let layout ← WireType.ofCode? (value % 8)
  guard (0 < value / 8)
  return (⟨value / 8, layout⟩, rest)

/-- Bytes with their count in front. -/
def writeDelimited (content : Bytes) : Bytes := writeVarint content.length ++ content

/-- The bytes that a count in front of them spans, with the rest. -/
def readDelimited? (bytes : Bytes) : Option (Bytes × Bytes) := do
  let (count, rest) ← readVarint? bytes
  guard (count ≤ rest.length)
  return rest.splitAt count

/-- What follows a number of bytes, if there are so many. -/
def dropExactly? (count : Nat) (bytes : Bytes) : Option Bytes :=
  if count ≤ bytes.length then some (bytes.drop count) else none

/-- What follows the fields of a group and the key that ends it. -/
def skipGroup? (skip : FieldKey → Bytes → Option Bytes) (number : Nat) (bytes : Bytes) :
    Option Bytes :=
  match readKey? bytes with
  | none => none
  | some (key, rest) =>
    -- A group is ended by its own number, any other end is out of place.
    if key.layout = .endGroup then if key.number = number then some rest else none
    else
      match skip key rest with
      | none => none
      | some rest =>
        if rest.length < bytes.length then skipGroup? skip number rest else none
  termination_by bytes.length

/-- What follows the value of a field, where groups lie inside each other up to a depth. -/
def skipValue? : (depth : Nat) → FieldKey → Bytes → Option Bytes
  | 0, _, _ => none
  | depth + 1, key, bytes =>
    match key.layout with
    -- Each layout tells how far its value goes, without knowing what it means.
    | .varint => (readVarint? bytes).map Prod.snd
    | .fixed64 => dropExactly? 8 bytes
    | .delimited => (readDelimited? bytes).map Prod.snd
    -- A group ends at the key with its own number, and its fields may be groups again.
    | .startGroup => skipGroup? (skipValue? depth) key.number bytes
    -- The end of a group has no value and stands here without its beginning.
    | .endGroup => none
    | .fixed32 => dropExactly? 4 bytes

end VolumeGroups
