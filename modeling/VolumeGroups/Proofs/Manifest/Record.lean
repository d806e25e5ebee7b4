import Mathlib.Tactic.Simps.Basic
import VolumeGroups.Proofs.Manifest.Format

/-! Formats of records, put together from the formats of their fields. -/

namespace VolumeGroups

namespace Fields

variable {α : Type} {fields : Fields} {name : String} {read : Json → Option α}

/-- Fields that are read one after another give a value exactly if each is read in its turn. -/
theorem read_eq_some_iff {ρ : Type} {first : Option α} {next : α → Option ρ} {record : ρ} :
    (first >>= next) = some record ↔ ∃ value, first = some value ∧ next value = some record :=
  Option.bind_eq_some_iff

/-- A field that may be missing or null is read as nothing exactly if it is. -/
theorem optional?_eq_none :
    fields.optional? name read = some none ↔
      Json.findMember? name fields = none ∨ Json.findMember? name fields = some .null := by
  unfold optional?
  split <;> simp_all

/-- A field that may be missing or null is read as a value exactly if it has that value. -/
theorem optional?_eq_some {value : α} :
    fields.optional? name read = some (some value) ↔
      ∃ given, Json.findMember? name fields = some given ∧ given ≠ .null ∧
        read given = some value := by
  -- A field may be missing, be null or have a value, which reads or does not.
  unfold optional?
  split <;> simp_all

end Fields

/-- A field of a record of which some part comes back. The field is kept wherever it is written as
the record has it, and then holds what comes back of the record. -/
structure Slot {ρ : Type} (settle : ρ → ρ) (Returns : ρ → Prop) where
  name : String
  /-- What the format says of the field. -/
  shape : Shape
  /-- Fields hold what a record has here. -/
  Holds : Fields → ρ → Prop
  /-- What is written of a record here, if anything is. -/
  write : ρ → Option Json
  carries : ∀ {given written : Fields} {record : ρ}, Holds given record → Returns record →
    Json.findMember? name written = write record → shape.CarriesField name given written
  returns : ∀ {given written : Fields} {record : ρ}, Holds given record → Returns record →
    Json.findMember? name written = write record → Holds written (settle record)

namespace Slot

variable {ρ α : Type} {settle : ρ → ρ} {Returns : ρ → Prop}

/-- A field that may be missing or null, and is written if there is a value. -/
@[simps]
def optional (name : String) (form : Form α) (part : ρ → Option α)
    (suits : ∀ record, Returns record → part (settle record) = (part record).map form.settle ∧
      ∀ value, part record = some value → form.Returns value) : Slot settle Returns where
  name
  shape := form.shape
  Holds fields record := fields.optional? name form.read = some (part record)
  write record := (part record).map form.write
  -- A value that is there and is no null was read.
  carries {given written record} holds back wrote value found present := by
    have filled : value ≠ .null := fun null => present (.inl null)
    cases held : part record with
    | none =>
      rw [held] at holds
      rcases Fields.optional?_eq_none.mp holds with missing | null
      · cases missing.symm.trans found
      · exact absurd (Option.some.inj (found.symm.trans null)) filled
    | some own =>
      rw [held] at holds wrote
      obtain ⟨other, there, _, read⟩ := Fields.optional?_eq_some.mp holds
      obtain rfl := Option.some.inj (found.symm.trans there)
      exact ⟨_, wrote, form.carries read ((suits record back).2 own held)⟩
  returns {given written record} holds back wrote := by
    rw [(suits record back).1]
    -- What is not written reads as nothing, and what is written is not null.
    cases held : part record with
    | none =>
      rw [held] at wrote
      exact Fields.optional?_eq_none.mpr (.inl wrote)
    | some value =>
      rw [held] at holds wrote
      obtain ⟨_, _, _, read⟩ := Fields.optional?_eq_some.mp holds
      exact Fields.optional?_eq_some.mpr
        ⟨_, wrote, form.present value, form.returns read ((suits record back).2 value held)⟩

/-- A field that has to be there. -/
@[simps]
def required (name : String) (form : Form α) (part : ρ → α)
    (suits : ∀ record, Returns record → part (settle record) = form.settle (part record) ∧
      form.Returns (part record)) : Slot settle Returns where
  name
  shape := form.shape
  Holds fields record := fields.required? name form.read = some (part record)
  write record := some (form.write (part record))
  -- The field must be there, so its value was read.
  carries {given written record} holds back wrote value found _ := by
    obtain ⟨other, there, read⟩ := Option.bind_eq_some_iff.mp holds
    obtain rfl := Option.some.inj (found.symm.trans there)
    exact ⟨_, wrote, form.carries read (suits record back).2⟩
  returns {given written record} holds back wrote := by
    -- The field was there when the record was read, so its form gives the value back.
    obtain ⟨_, _, read⟩ := Option.bind_eq_some_iff.mp holds
    refine Option.bind_eq_some_iff.mpr ⟨_, wrote, ?_⟩
    rw [(suits record back).1]
    exact form.returns read (suits record back).2

/-- A field that may be missing, and is always written. What stands for a missing one is of the
format as well. -/
@[simps]
def withDefault (name : String) (form : Form α) (default : α)
    (known : form.read (form.write default) = some default) (part : ρ → α)
    (suits : ∀ record, Returns record → part (settle record) = form.settle (part record) ∧
      form.Returns (part record)) : Slot settle Returns where
  name
  shape := form.shape
  Holds fields record := fields.withDefault? name form.read default = some (part record)
  write record := some (form.write (part record))
  -- A value that is there was read, and the default stands for none.
  carries {given written record} holds back wrote value found _ := by
    rw [Fields.withDefault?, found] at holds
    exact ⟨_, wrote, form.carries holds (suits record back).2⟩
  returns {given written record} holds back wrote := by
    -- Whether the value was given or stands for a missing one, the format reads it from somewhere.
    have read : ∃ value, form.read value = some (part record) := by
      rw [Fields.withDefault?] at holds
      split at holds
      · exact ⟨_, Option.some.inj holds ▸ known⟩
      · exact ⟨_, holds⟩
    obtain ⟨value, read⟩ := read
    rw [Fields.withDefault?, wrote, (suits record back).1]
    exact form.returns read (suits record back).2

/-- A field that may be missing or null, and is always written. What stands for a missing one is of
the format as well. -/
@[simps]
def orElse (name : String) (form : Form α) (default : α)
    (known : form.read (form.write default) = some default) (part : ρ → α)
    (suits : ∀ record, Returns record → part (settle record) = form.settle (part record) ∧
      form.Returns (part record)) : Slot settle Returns where
  name
  shape := form.shape
  Holds fields record := fields.orElse? name form.read default = some (part record)
  write record := some (form.write (part record))
  -- A null stands for the default as well.
  carries {given written record} holds back wrote value found present := by
    have filled : value ≠ .null := fun null => present (.inl null)
    obtain ⟨held, holds, same⟩ := Option.map_eq_some_iff.mp holds
    cases held with
    | none =>
      rcases Fields.optional?_eq_none.mp holds with missing | null
      · cases missing.symm.trans found
      · exact absurd (Option.some.inj (found.symm.trans null)) filled
    | some own =>
      obtain ⟨other, there, _, read⟩ := Fields.optional?_eq_some.mp holds
      obtain rfl := Option.some.inj (found.symm.trans there)
      exact ⟨_, wrote, form.carries (same ▸ read) (suits record back).2⟩
  returns {given written record} holds back wrote := by
    -- As for the field that may not be null, the format reads the value from somewhere.
    have read : ∃ value, form.read value = some (part record) := by
      obtain ⟨held, holds, same⟩ := Option.map_eq_some_iff.mp holds
      rw [← same]
      cases held with
      | none => exact ⟨_, known⟩
      | some value =>
        obtain ⟨other, _, _, read⟩ := Fields.optional?_eq_some.mp holds
        exact ⟨other, read⟩
    obtain ⟨value, read⟩ := read
    refine Option.map_eq_some_iff.mpr
      ⟨some (form.settle (part record)), ?_, (suits record back).1.symm⟩
    exact Fields.optional?_eq_some.mpr
      ⟨_, wrote, form.present _, form.returns read (suits record back).2⟩

/-- A map of texts that may be missing, and is written unless it is empty. -/
@[simps]
def vanishing (name : String) (part : ρ → KeyMap String)
    (settles : ∀ record, part (settle record) = part record) : Slot settle Returns where
  name
  shape := .map true
  Holds fields record := fields.withDefault? name Json.readTextMap? ∅ = some (part record)
  write record := if (part record).isEmpty then none else some (.ofTextMap (part record))
  carries {given written record} holds _ wrote value found present := by
    rw [Fields.withDefault?, found] at holds
    have filled : (part record).isEmpty = false := by
      cases empty : (part record).isEmpty with
      | false => rfl
      | true =>
        -- Only the empty object makes an empty map, and that counts as absent.
        rw [Json.eq_empty_of_readTextMap? holds empty] at present
        exact absurd (.inr ⟨rfl, rfl⟩) present
    rw [filled] at wrote
    exact ⟨_, wrote, (Form.textMap true).carries holds trivial⟩
  returns {given written record} _ _ wrote := by
    rw [Fields.withDefault?, wrote, settles]
    -- A map that is left out is read as the empty one, which it was.
    cases empty : (part record).isEmpty with
    | true => exact congrArg some (KeyMap.eq_of_entries (List.isEmpty_iff.mp empty).symm)
    | false => exact Json.readTextMap?_ofTextMap _

end Slot

/-- What is written of a record has its fields. -/
def Slot.Wrote {ρ : Type} {settle : ρ → ρ} {Returns : ρ → Prop} (slots : List (Slot settle Returns))
    (record : ρ) (written : Json) : Prop :=
  ∃ members, written = .object members ∧
    ∀ slot ∈ slots, Json.findMember? slot.name members = slot.write record

/-- An object of fields with distinct names has those that are among them. -/
theorem Slot.wrote_ofFields {ρ : Type} {settle : ρ → ρ} {Returns : ρ → Prop}
    {slots : List (Slot settle Returns)} {record : ρ} {fields : List (String × Option Json)}
    (distinct : (fields.map Prod.fst).Nodup)
    (known : ∀ slot ∈ slots, (slot.name, slot.write record) ∈ fields) :
    Slot.Wrote slots record (.ofFields fields) :=
  ⟨_, rfl, fun slot present => Json.findMember?_ofFields distinct (known slot present)⟩

/-- Documents open as fields of some names: objects by their members, and nothing but objects and
lists opens. -/
structure Opens (names : List String) (opens : Json → Option Fields) : Prop where
  object : ∀ members, opens (.object members) = some members
  fields : ∀ {given fields}, opens given = some fields → fields = given.fieldsBy names

namespace Json

/-- Objects open as their members. -/
theorem opens_readFields? (names : List String) : Opens names readFields? where
  object _ := rfl
  fields {given fields} read := by
    cases given <;> cases read
    rfl

/-- Objects open as their members, and lists by the order of the names. -/
theorem opens_readRecord? (names : List String) : Opens names (readRecord? names) where
  object _ := rfl
  fields {given fields} read := by
    -- A list is opened only if it is no longer than the names.
    cases given with
    | object => exact (Option.some.inj read).symm
    | list => exact (Option.some.inj (Option.ite_none_right_eq_some.mp read).2).symm
    | _ => cases read

/-- Objects open as their members, and full lists by the order of the names. -/
theorem opens_readFullRecord? (names : List String) : Opens names (readFullRecord? names) where
  object _ := rfl
  fields {given fields} read := by
    -- Here a list has to be as long as the names.
    cases given with
    | object => exact (Option.some.inj read).symm
    | list => exact (Option.some.inj (Option.ite_none_right_eq_some.mp read).2).symm
    | _ => cases read

end Json

/-- Records are read from documents that open as their fields, and written as objects that have
them. -/
structure IsRecord {ρ : Type} {settle : ρ → ρ} {Returns : ρ → Prop}
    (slots : List (Slot settle Returns)) (opens : Json → Option Fields) (read : Json → Option ρ)
    (write : ρ → Json) : Prop where
  opening : Opens (slots.map Slot.name) opens
  -- As this is exact, a record reads again from any fields that hold it.
  reads : ∀ given record, read given = some record ↔
    ∃ fields, opens given = some fields ∧ ∀ slot ∈ slots, slot.Holds fields record
  writes : ∀ record, Slot.Wrote slots record (write record)

/-- The format of records with some fields. -/
@[simps -fullyApplied]
def Form.record {ρ : Type} {settle : ρ → ρ} {Returns : ρ → Prop}
    {slots : List (Slot settle Returns)} {opens : Json → Option Fields}
    {read : Json → Option ρ} {write : ρ → Json}
    (described : IsRecord slots opens read write) : Form ρ where
  shape := .record (slots.map fun slot => (slot.name, slot.shape))
  read
  write
  settle
  Returns
  present record := by
    -- What is written is an object, which is never null.
    obtain ⟨members, written, _⟩ := described.writes record
    rw [written]
    nofun
  carries {given record} known back := by
    -- Each field of the shape is one of the slots.
    obtain ⟨fields, opened, held⟩ := (described.reads given record).mp known
    obtain ⟨members, written, wrote⟩ := described.writes record
    rw [written, Shape.carries_record_iff]
    intro field listed
    obtain ⟨slot, present, rfl⟩ := List.mem_map.mp listed
    rw [List.map_map, show Prod.fst ∘ (fun slot : Slot settle Returns => (slot.name, slot.shape)) =
      Slot.name from rfl, ← described.opening.fields opened]
    exact slot.carries (held slot present) back (wrote slot present)
  returns {given record} known back := by
    -- The fields that were read are those of the record, and those that are written hold it again.
    obtain ⟨fields, opened, held⟩ := (described.reads given record).mp known
    obtain ⟨members, written, wrote⟩ := described.writes record
    rw [written]
    -- The record that comes back is the one whose fields the written object holds, slot by slot.
    refine (described.reads _ _).mpr ⟨members, described.opening.object members, ?_⟩
    intro slot present
    exact slot.returns (held slot present) back (wrote slot present)

end VolumeGroups
