import VolumeGroups.Proofs.Wire.Reading

/-! What the written parts of a message do to a value that they are taken into, and that each part
is made of whole fields. -/

namespace VolumeGroups

variable {α : Type} {read : FieldReader α} {depth number : Nat} {declared : List Nat}
  {old mid next : α} {first second content : Bytes}

/-- Taking in some bytes turns one value into another, whatever follows the bytes. -/
def FieldReader.Turns (read : FieldReader α) (depth : Nat) (old : α) (bytes : Bytes) (next : α) :
    Prop :=
  ∀ rest, readFieldsWith? read depth old (bytes ++ rest) = readFieldsWith? read depth next rest

namespace FieldReader.Turns

theorem nil : read.Turns depth old [] old := fun _ => rfl

theorem append (one : read.Turns depth old first mid) (other : read.Turns depth mid second next) :
    read.Turns depth old (first ++ second) next := by
  intro rest
  rw [List.append_assoc, one, other]

/-- The value that all bytes turn a value into is the one that they hold. -/
theorem readFieldsWith?_eq (turns : read.Turns depth old first next) :
    readFieldsWith? read depth old first = some next := by
  simpa [readFieldsWith?_nil] using turns []

end FieldReader.Turns

/-- A number that fields of messages have. -/
def IsFieldNumber (number : Nat) : Prop := 0 < number ∧ number < wordBound 29

instance : Decidable (IsFieldNumber number) := inferInstanceAs (Decidable (_ ∧ _))

namespace Interspersed

/-- Two messages one after the other, each with fields put between its own. -/
theorem append {plain other bytes : Bytes} (one : Interspersed declared plain first)
    (later : Interspersed declared other bytes) :
    Interspersed declared (plain ++ other) (first ++ bytes) := by
  induction one with
  | done => exact later
  | keep own _ ih => simpa using ih.keep own
  | insert foreign added _ ih => simpa using ih.insert foreign added

/-- A single field with counted bytes. -/
theorem single (own : IsField ⟨number, .delimited⟩ first) : Interspersed declared first first := by
  simpa using Interspersed.done.keep own

end Interspersed

namespace Message

/-- The content of a field is shorter than the field. -/
theorem length_le_writeContent : content.length ≤ (writeContent number content).length := by
  simp only [writeContent, writeDelimited, List.length_append]
  omega

/-- A written field is taken in as its content is. -/
theorem turns_writeContent (numbered : IsFieldNumber number)
    (fits : (writeContent number content).length < wordBound 64)
    (takes : ∀ count rest, IsVarint content.length count →
      read depth ⟨number, .delimited⟩ old (count ++ content ++ rest) = some (next, rest)) :
    read.Turns depth old (writeContent number content) next := by
  intro rest
  -- The count is spelled in the shortest way, and what is taken in does not depend on that.
  have counted := isVarint_writeVarint (Nat.lt_of_le_of_lt length_le_writeContent fits)
  exact readFieldsWith?_append_of_eq_some (FieldKey.isSpelled_write numbered.1 numbered.2)
    (takes _ rest counted)

/-- A written field is a whole field. -/
theorem isField_writeContent (numbered : IsFieldNumber number)
    (fits : (writeContent number content).length < wordBound 64) :
    IsField ⟨number, .delimited⟩ (writeContent number content) :=
  .mk (FieldKey.isSpelled_write numbered.1 numbered.2)
    (.delimited (isVarint_writeVarint (Nat.lt_of_le_of_lt length_le_writeContent fits)))

/-- The content of a written text is read as that text. -/
theorem readText?_written {text : String} {count : Bytes}
    (counted : IsVarint text.toUTF8.toList.length count) (rest : Bytes) :
    readText? ⟨number, .delimited⟩ (count ++ text.toUTF8.toList ++ rest) = some (text, rest) := by
  rw [readText?_append counted, fromUTF8?_toUTF8]
  rfl

/-- A written text is set, where an empty one, which is not written, was set before. -/
theorem turns_writeText {text : String} (set : String → α) (numbered : IsFieldNumber number)
    (fits : (writeText number text).length < wordBound 64)
    (takes : ∀ bytes, read depth ⟨number, .delimited⟩ (set "") bytes
      = (readText? ⟨number, .delimited⟩ bytes).map fun found => (set found.1, found.2)) :
    read.Turns depth (set "") (writeText number text) (set text) := by
  unfold writeText at fits ⊢
  -- An empty text is left out, and the value has the empty text already.
  split
  · rename_i empty
    rw [String.isEmpty_iff.mp empty]
    exact .nil
  · rename_i filled
    refine turns_writeContent numbered (by simpa [filled] using fits) ?_
    intro count rest counted
    rw [takes, readText?_written counted]
    rfl

/-- A written text is no field or a whole one. -/
theorem interspersed_writeText {text : String} (numbered : IsFieldNumber number)
    (fits : (writeText number text).length < wordBound 64) :
    Interspersed declared (writeText number text) (writeText number text) := by
  unfold writeText at fits ⊢
  -- An empty text is left out.
  split
  · exact .done
  · rename_i filled
    exact .single (isField_writeContent numbered (by simpa [filled] using fits))

/-- Written texts are added one after another. -/
theorem turns_writeTexts {texts : List String} (add : α → String → α)
    (numbered : IsFieldNumber number) (fits : (writeTexts number texts).length < wordBound 64)
    (takes : ∀ value bytes, read depth ⟨number, .delimited⟩ value bytes
      = (readText? ⟨number, .delimited⟩ bytes).map fun found => (add value found.1, found.2)) :
    read.Turns depth old (writeTexts number texts) (texts.foldl add old) := by
  -- The induction goes along the texts, each of which has a field of its own.
  induction texts generalizing old with
  | nil => exact .nil
  | cons text rest ih =>
    simp only [writeTexts, List.flatMap_cons, List.length_append] at fits ⊢
    refine .append (turns_writeContent numbered (by omega) ?_) (ih ?_)
    rotate_left
    · simp only [writeTexts]
      omega
    intro count rest counted
    rw [takes, readText?_written counted]
    rfl

/-- Written texts are whole fields. -/
theorem interspersed_writeTexts {texts : List String} (numbered : IsFieldNumber number)
    (fits : (writeTexts number texts).length < wordBound 64) :
    Interspersed declared (writeTexts number texts) (writeTexts number texts) := by
  -- The induction goes along the texts.
  induction texts with
  | nil => exact .done
  | cons text rest ih =>
    simp only [writeTexts, List.flatMap_cons, List.length_append] at fits ⊢
    exact (Interspersed.single (isField_writeContent numbered (by omega))).append
      (ih (by simp only [writeTexts]; omega))

/-- The content of a written entry is read as that entry. -/
theorem readEntry_written {key value : String}
    (fits : (writeText 1 key ++ writeText 2 value).length < wordBound 64) :
    readFieldsWith? readEntryField? depth ("", "") (writeText 1 key ++ writeText 2 value)
      = some (key, value) := by
  simp only [List.length_append] at fits
  -- An empty key or value is left out, and an entry begins with both of them empty.
  have named : FieldReader.Turns readEntryField? depth ("", "") (writeText 1 key) (key, "") :=
    turns_writeText (fun text => (text, "")) (by decide) (by omega) fun _ => rfl
  have valued :
      FieldReader.Turns readEntryField? depth (key, "") (writeText 2 value) (key, value) :=
    turns_writeText (fun text => (key, text)) (by decide) (by omega) fun _ => rfl
  exact (named.append valued).readFieldsWith?_eq

/-- Written entries are put into a map one after another. -/
theorem turns_writeEntries {entries : List (String × String)} (map : KeyMap String)
    (set : KeyMap String → α) (deep : 0 < depth) (numbered : IsFieldNumber number)
    (fits : (entries.flatMap fun entry =>
      writeContent number (writeText 1 entry.1 ++ writeText 2 entry.2)).length < wordBound 64)
    (takes : ∀ map bytes, read depth ⟨number, .delimited⟩ (set map) bytes
      = (Message.readEntry? depth map bytes).map fun found => (set found.1, found.2)) :
    read.Turns depth (set map)
      (entries.flatMap fun entry =>
        writeContent number (writeText 1 entry.1 ++ writeText 2 entry.2))
      (set (entries.foldl (fun map entry => map.insert entry.1 entry.2) map)) := by
  -- The induction goes along the entries, while the map grows by those that were taken in.
  induction entries generalizing map with
  | nil => exact .nil
  | cons entry rest ih =>
    simp only [List.flatMap_cons, List.length_append] at fits ⊢
    refine .append (turns_writeContent numbered (by omega) ?_) (ih _ (by omega))
    -- The entry is read by its own two fields, the key and its value.
    intro count rest counted
    have content : (writeText 1 entry.1 ++ writeText 2 entry.2).length ≤
        (writeContent number (writeText 1 entry.1 ++ writeText 2 entry.2)).length :=
      length_le_writeContent
    rw [takes, readEntry?_append counted, insertContent?, if_pos deep,
      readEntry_written (by omega)]
    rfl

/-- A written map is set in the place of an empty one. -/
theorem turns_writeMap {map : KeyMap String} (set : KeyMap String → α) (deep : 0 < depth)
    (numbered : IsFieldNumber number) (fits : (writeMap number map).length < wordBound 64)
    (takes : ∀ map bytes, read depth ⟨number, .delimited⟩ (set map) bytes
      = (Message.readEntry? depth map bytes).map fun found => (set found.1, found.2)) :
    read.Turns depth (set ∅) (writeMap number map) (set map) := by
  -- The map is filled with its own entries, in their order.
  have turns := turns_writeEntries ∅ set deep numbered fits takes
  rwa [show map.entries.foldl (fun map entry => map.insert entry.1 entry.2) ∅ = map from
    map.ofList_entries] at turns

/-- A written map is made of whole fields. -/
theorem interspersed_writeMap {map : KeyMap String} (numbered : IsFieldNumber number)
    (fits : (writeMap number map).length < wordBound 64) :
    Interspersed declared (writeMap number map) (writeMap number map) := by
  unfold writeMap at fits ⊢
  generalize map.entries = entries at fits ⊢
  -- The induction goes along the entries.
  induction entries with
  | nil => exact .done
  | cons entry rest ih =>
    simp only [List.flatMap_cons, List.length_append] at fits ⊢
    exact (Interspersed.single (isField_writeContent numbered (by omega))).append
      (ih (Nat.lt_of_le_of_lt (Nat.le_add_left ..) fits))

variable {β : Type} [Message β]

/-- A written message, if there is one, is set in the place of none. -/
theorem turns_writeNested {message : Option β} (set : Option β → α) (deep : 0 < depth)
    (numbered : IsFieldNumber number) (fits : (writeNested number message).length < wordBound 64)
    (turns : ∀ value, message = some value →
      readField?.Turns (depth - 1) (blank : β) (write value) value)
    (takes : ∀ bytes, read depth ⟨number, .delimited⟩ (set none) bytes
      = (readNested? depth ⟨number, .delimited⟩ none bytes).map fun found =>
        (set (some found.1), found.2)) :
    read.Turns depth (set none) (writeNested number message) (set message) := by
  -- A message that is not there is not written.
  cases message with
  | none => exact .nil
  | some value =>
    refine turns_writeContent numbered fits ?_
    intro count rest counted
    -- There was no message before, so the fields are taken into a blank one.
    rw [takes, readNested?_append counted, mergeContent?, if_pos deep, Option.getD_none,
      (turns value rfl).readFieldsWith?_eq]
    rfl

/-- A written message is no field or a whole one. -/
theorem interspersed_writeNested {message : Option β} (numbered : IsFieldNumber number)
    (fits : (writeNested number message).length < wordBound 64) :
    Interspersed declared (writeNested number message) (writeNested number message) := by
  cases message with
  | none => exact .done
  | some value => exact .single (isField_writeContent numbered fits)

end Message

end VolumeGroups
