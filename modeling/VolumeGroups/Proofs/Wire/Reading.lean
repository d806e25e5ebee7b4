import VolumeGroups.Wire.Message
import VolumeGroups.Proofs.Wire.Field

/-! How values are taken in field by field: fields that are not declared make no difference, and
written texts, entries and messages read as what they were written from. -/

namespace VolumeGroups

variable {α : Type}

/-- The bytes of an array in order. -/
theorem toList_byteArray (bytes : ByteArray) : bytes.toList = bytes.data.toList := by
  -- The walk collects the bytes in front of its position in reverse.
  have walk (position : Nat) (earlier : List UInt8) :
      ByteArray.toList.loop bytes position earlier
        = earlier.reverse ++ bytes.data.toList.drop position := by
    induction position, earlier using ByteArray.toList.loop.induct bytes with
    | case1 position earlier inside ih =>
      rw [ByteArray.toList.loop, if_pos inside, ih]
      have within : position < bytes.data.toList.length := by simpa using inside
      have byte : bytes.get! position = bytes.data.toList[position] := by
        simpa [ByteArray.get!] using getElem!_pos bytes.data position (by simpa using inside)
      simp [List.drop_eq_getElem_cons within, byte]
    | case2 position earlier outside =>
      rw [ByteArray.toList.loop, if_neg outside]
      have beyond : bytes.data.toList.length ≤ position := by simpa using outside
      simp [List.drop_eq_nil_of_le beyond]
  simpa [ByteArray.toList] using walk 0 []

/-- The bytes of a text are those of that text and no other. -/
theorem fromUTF8?_toUTF8 (text : String) :
    String.fromUTF8? ⟨text.toUTF8.toList.toArray⟩ = some text := by
  have same : (⟨text.toUTF8.toList.toArray⟩ : ByteArray) = text.toUTF8 := by
    rw [toList_byteArray]
  rw [same]
  -- A text carries the proof that its bytes are valid, which decides the check.
  have valid : text.toUTF8.IsValidUTF8 := text.isValidUTF8
  rw [String.fromUTF8?, dif_pos valid]
  rfl

namespace Message

variable {number depth : Nat} {count content : Bytes}

/-- What a text field reads as depends on its content alone. -/
theorem readText?_append (counted : IsVarint content.length count) (rest : Bytes) :
    readText? ⟨number, .delimited⟩ (count ++ content ++ rest)
      = (String.fromUTF8? ⟨content.toArray⟩).map fun text => (text, rest) := by
  unfold readText?
  rw [readDelimited?_append counted]
  cases decoded : String.fromUTF8? ⟨content.toArray⟩ <;> simp [guard, decoded]

/-- The map with the entry in it that some bytes hold. -/
def insertContent? (depth : Nat) (map : KeyMap String) (content : Bytes) : Option (KeyMap String) :=
  if 0 < depth then
    (readFieldsWith? readEntryField? (depth - 1) ("", "") content).map fun entry =>
      map.insert entry.1 entry.2
  else none

/-- What an entry of a map reads as depends on its content alone. -/
theorem readEntry?_append (counted : IsVarint content.length count) (map : KeyMap String)
    (rest : Bytes) :
    readEntry? depth map (count ++ content ++ rest)
      = (insertContent? depth map content).map fun map => (map, rest) := by
  unfold readEntry? insertContent?
  rw [readDelimited?_append counted]
  -- An entry is a message of its own, so it takes one level of depth.
  by_cases deep : 0 < depth
  · cases found : readFieldsWith? readEntryField? (depth - 1) ("", "") content <;>
      simp [guard, deep, found]
  · simp [guard, deep]

/-- The message that earlier fields gave with the fields of some bytes taken in. -/
def mergeContent? [Message α] (depth : Nat) (old : Option α) (content : Bytes) : Option α :=
  if 0 < depth then readFieldsWith? readField? (depth - 1) (old.getD blank) content else none

/-- What a message in a field reads as depends on its content alone. -/
theorem readNested?_append [Message α] (counted : IsVarint content.length count) (old : Option α)
    (rest : Bytes) :
    readNested? depth ⟨number, .delimited⟩ old (count ++ content ++ rest)
      = (mergeContent? depth old content).map fun value => (value, rest) := by
  unfold readNested? mergeContent?
  rw [readDelimited?_append counted]
  -- The message that was there before is what the fields of the content are taken into.
  by_cases deep : 0 < depth
  · cases found : readFieldsWith? readField? (depth - 1) (old.getD blank) content <;>
      simp [guard, deep, found]
  · simp [guard, deep]

/-- A field with counted bytes that is not declared is passed over, unless no depth is left. -/
theorem ignore?_append (counted : IsVarint content.length count) (value : α) (rest : Bytes) :
    ignore? depth ⟨number, .delimited⟩ value (count ++ content ++ rest)
      = (if 0 < depth then some value else none).map fun value => (value, rest) := by
  -- Without any depth left not even a foreign field is passed over.
  cases depth with
  | zero => rfl
  | succ depth =>
    have skipped := IsValue.skipValue?_append ⟨number, .delimited⟩ (.delimited counted) depth rest
    simp only [ignore?, skipped]
    simp

end Message

/-- What a reader makes of the fields of a message: it passes over those whose numbers it does not
declare, and of those with counted bytes it looks at the content alone. -/
structure FieldReader.IsLawful (read : FieldReader α) (declared : List Nat) : Prop where
  ignores : ∀ (depth : Nat) (key : FieldKey) (value : α) (bytes : Bytes), key.number ∉ declared →
    read depth key value bytes = Message.ignore? depth key value bytes
  takesContent : ∀ (depth number : Nat) (value : α) (content : Bytes), ∃ next : Option α,
    ∀ count rest, IsVarint content.length count →
      read depth ⟨number, .delimited⟩ value (count ++ content ++ rest)
        = next.map fun value => (value, rest)

section Loop

variable {read : FieldReader α} {depth : Nat}

/-- Fields are taken in one after another. -/
theorem readFieldsWith?_append {key : FieldKey} {front value rest : Bytes} {old : α}
    {next : Option α} (spelled : key.IsSpelled front)
    (takes : read depth key old (value ++ rest) = next.map fun value => (value, rest)) :
    readFieldsWith? read depth old (front ++ value ++ rest)
      = next.bind fun value => readFieldsWith? read depth value rest := by
  have some : 0 < front.length := spelled.length_pos
  have filled : (front ++ value ++ rest).isEmpty = false := by
    simp [List.ne_nil_of_length_pos some]
  -- The key has some byte, so the rest is shorter than before.
  have shorter : rest.length < (front ++ value ++ rest).length := by
    simp only [List.length_append]; omega
  rw [readFieldsWith?, filled]
  rw [List.append_assoc] at shorter ⊢
  rw [spelled.readKey?_append]
  -- The field is taken in, or it cannot be.
  cases next with
  | none => simp [takes]
  | some next => simp only [takes, Option.map_some, if_pos shorter]; rfl

/-- A field that is taken in leaves the bytes behind it. -/
theorem readFieldsWith?_append_of_eq_some {key : FieldKey} {front value rest : Bytes}
    {old next : α} (spelled : key.IsSpelled front)
    (takes : read depth key old (value ++ rest) = some (next, rest)) :
    readFieldsWith? read depth old (front ++ value ++ rest)
      = readFieldsWith? read depth next rest := by
  -- The field leaves what is behind it.
  have taken : read depth key old (value ++ rest) = (some next).map fun value => (value, rest) :=
    takes
  exact readFieldsWith?_append spelled taken

/-- Bytes without any field leave a value as it is. -/
theorem readFieldsWith?_nil (value : α) : readFieldsWith? read depth value [] = some value := by
  simp [readFieldsWith?]

/-- Fields that a reader does not declare make no difference, wherever they stand. -/
theorem Interspersed.readFieldsWith?_eq {declared : List Nat} {plain bytes : Bytes}
    (inserted : Interspersed declared plain bytes) (lawful : read.IsLawful declared) (value : α) :
    readFieldsWith? read (depth + 1) value bytes
      = readFieldsWith? read (depth + 1) value plain := by
  -- The induction goes along the fields, of which the kept ones do the same on both sides.
  induction inserted generalizing value with
  | done => rfl
  | keep own later ih =>
    obtain ⟨spelled, valued⟩ := own
    cases valued with
    | @delimited content count counted =>
      obtain ⟨next, takes⟩ := lawful.takesContent (depth + 1) _ value content
      rw [readFieldsWith?_append spelled (takes count _ counted),
        readFieldsWith?_append spelled (takes count _ counted)]
      cases next with
      | none => rfl
      | some next => exact ih next
  | @insert key _ _ bytes foreign added later ih =>
    obtain @⟨front, content, spelled, valued⟩ := added
    have skips := lawful.ignores (depth + 1) key value (content ++ bytes) foreign
    rw [Message.ignore?, valued.skipValue?_append key] at skips
    rw [readFieldsWith?_append_of_eq_some spelled skips]
    exact ih value

end Loop

end VolumeGroups
