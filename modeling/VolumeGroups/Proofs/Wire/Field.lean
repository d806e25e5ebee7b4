import Mathlib.Data.Option.Basic
import VolumeGroups.Wire.Field
import VolumeGroups.Proofs.Wire.Varint

/-! Which bytes are one whole field, and what it means that fields of other numbers stand between
those of a message. -/

namespace VolumeGroups

/-- Some bytes are a value of a layout, where groups are left out. -/
inductive IsValue : WireType → Bytes → Prop
  | varint {value : Nat} {bytes : Bytes} (varint : IsVarint value bytes) : IsValue .varint bytes
  | fixed64 {bytes : Bytes} (long : bytes.length = 8) : IsValue .fixed64 bytes
  | delimited {content count : Bytes} (counted : IsVarint content.length count) :
    IsValue .delimited (count ++ content)
  | fixed32 {bytes : Bytes} (long : bytes.length = 4) : IsValue .fixed32 bytes

/-- Some bytes spell a key. -/
structure FieldKey.IsSpelled (key : FieldKey) (bytes : Bytes) : Prop where
  varint : IsVarint (8 * key.number + key.layout.code) bytes
  numbered : 0 < key.number
  small : 8 * key.number + key.layout.code < wordBound 32

/-- Some bytes are a field: its key and then its value. -/
inductive IsField (key : FieldKey) : Bytes → Prop
  | mk {front value : Bytes} (spelled : key.IsSpelled front) (valued : IsValue key.layout value) :
    IsField key (front ++ value)

/-- Bytes come from those of a message, whose own fields have counted bytes, by putting fields of
numbers that the message does not declare in front of them, between them and behind them. -/
inductive Interspersed (declared : List Nat) : (plain bytes : Bytes) → Prop
  | done : Interspersed declared [] []
  | keep {number : Nat} {field plain bytes : Bytes} (own : IsField ⟨number, .delimited⟩ field)
    (later : Interspersed declared plain bytes) :
    Interspersed declared (field ++ plain) (field ++ bytes)
  | insert {key : FieldKey} {field plain bytes : Bytes} (foreign : key.number ∉ declared)
    (added : IsField key field) (later : Interspersed declared plain bytes) :
    Interspersed declared plain (field ++ bytes)

/-- The number of a layout is that of no other. -/
theorem WireType.ofCode?_code (layout : WireType) : ofCode? layout.code = some layout := by
  cases layout <;> rfl

theorem WireType.code_lt (layout : WireType) : layout.code < 8 := by
  cases layout <;> decide

namespace FieldKey

/-- The written form of a key spells it, if its number takes no more than twenty-nine bits. -/
theorem isSpelled_write {key : FieldKey} (numbered : 0 < key.number)
    (small : key.number < wordBound 29) : key.IsSpelled key.write := by
  have fits : 8 * key.number + key.layout.code < wordBound 32 := by
    have code := key.layout.code_lt
    simp only [wordBound, Nat.pow_eq, Nat.reducePow] at small ⊢
    omega
  exact ⟨isVarint_writeVarint (Nat.lt_trans fits (by decide)), numbered, fits⟩

/-- However a key is spelled, it is read from the front of any bytes. -/
theorem IsSpelled.readKey?_append {key : FieldKey} {front : Bytes} (spelled : key.IsSpelled front)
    (rest : Bytes) : readKey? (front ++ rest) = some (key, rest) := by
  -- The low three bits are the layout and the others the number.
  have code := key.layout.code_lt
  have low : (8 * key.number + key.layout.code) % 8 = key.layout.code := by omega
  have high : (8 * key.number + key.layout.code) / 8 = key.number := by omega
  have numbered : 8 ≤ 8 * key.number + key.layout.code := by have := spelled.numbered; omega
  simp [readKey?, guard, spelled.varint.readVarint?_append, spelled.small, low, high, numbered,
    WireType.ofCode?_code]

/-- A key has at least one byte. -/
theorem IsSpelled.length_pos {key : FieldKey} {front : Bytes} (spelled : key.IsSpelled front) :
    0 < front.length :=
  spelled.varint.spells.length_pos

end FieldKey

/-- Counted bytes are read from the front of any bytes, however the count is spelled. -/
theorem readDelimited?_append {content count : Bytes} (counted : IsVarint content.length count)
    (rest : Bytes) : readDelimited? (count ++ content ++ rest) = some (content, rest) := by
  simp [readDelimited?, guard, counted.readVarint?_append]

/-- A value is passed over to the byte. -/
theorem IsValue.skipValue?_append (key : FieldKey) {value : Bytes}
    (valued : IsValue key.layout value) (depth : Nat) (rest : Bytes) :
    skipValue? (depth + 1) key (value ++ rest) = some rest := by
  obtain ⟨number, layout⟩ := key
  -- Only groups hold other fields, so none of the four layouts uses up depth.
  cases valued with
  | varint varint => simp [skipValue?, varint.readVarint?_append]
  | fixed64 long => simp [skipValue?, dropExactly?, long, List.drop_left' long]
  | delimited counted => simp only [skipValue?, readDelimited?_append counted, Option.map_some]
  | fixed32 long => simp [skipValue?, dropExactly?, long, List.drop_left' long]

end VolumeGroups
