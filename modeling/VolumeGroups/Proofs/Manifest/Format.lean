import Mathlib.Data.List.Forall2
import Mathlib.Tactic.Simps.Basic
import VolumeGroups.Manifest.Metadata
import VolumeGroups.Proofs.Manifest.Calendar

/-! Formats of values in documents: how a value is read and written, what of it comes back, and what
the document that is written keeps of the one that was read. -/

namespace VolumeGroups

namespace Json

/-- The fields of an object, or those of a list that gives the values in the order of the names. -/
def fieldsBy (names : List String) : Json → Fields
  | .object members => members
  | .list items => names.zip items
  | _ => []

/-- A member in front counts only if no later one has its name. -/
theorem findMember?_cons (name other : String) (value : Json) (members : List (String × Json)) :
    findMember? name ((other, value) :: members) =
      (findMember? name members).or (if other = name then some value else none) := by
  -- Members are looked for from the back.
  simp only [findMember?, List.reverse_cons, List.find?_append]
  cases members.reverse.find? fun member => member.1 == name with
  | some later => rfl
  | none => by_cases same : other = name <;> simp [same]

/-- A name that no member has is not found. -/
theorem findMember?_of_not_mem {members : List (String × Json)} {name : String}
    (missing : name ∉ members.map Prod.fst) : findMember? name members = none := by
  -- The induction goes along the members, of which the last one of a name counts.
  induction members with
  | nil => rfl
  | cons member rest ih =>
    simp only [List.map_cons, List.mem_cons, not_or] at missing
    rw [findMember?_cons, ih missing.2, if_neg fun same => missing.1 same.symm]
    rfl

/-- An object that is written has the names of fields only. -/
theorem mem_of_mem_ofFields {fields : List (String × Option Json)} {name : String}
    (known : name ∈ (ofFields fields).members.map Prod.fst) : name ∈ fields.map Prod.fst := by
  simp only [ofFields, members, List.mem_map, List.mem_filterMap] at known
  obtain ⟨_, ⟨field, known, written⟩, rfl⟩ := known
  obtain ⟨value, _, rfl⟩ := Option.map_eq_some_iff.mp written
  exact List.mem_map_of_mem known

/-- In an object that is written each field has its value. -/
theorem findMember?_ofFields {fields : List (String × Option Json)}
    (distinct : (fields.map Prod.fst).Nodup) {name : String} {value : Option Json}
    (known : (name, value) ∈ fields) : findMember? name (ofFields fields).members = value := by
  -- The induction goes along the fields, some of which are not written at all.
  induction fields with
  | nil => cases known
  | cons field rest ih =>
    rcases field with ⟨other, given⟩
    obtain ⟨fresh, others⟩ := List.nodup_cons.mp distinct
    -- No later field has the name of the first one, so none hides it.
    have absent {name : String} (fresh : name ∉ rest.map Prod.fst) :
        findMember? name (ofFields rest).members = none :=
      findMember?_of_not_mem fun known => fresh (mem_of_mem_ofFields known)
    rcases List.mem_cons.mp known with same | later
    · cases same
      cases value with
      | none => exact absent fresh
      | some value =>
        refine (findMember?_cons name name value _).trans ?_
        rw [if_pos rfl]
        exact congrArg (Option.or · (some value)) (absent fresh)
    · cases given with
      | none => exact ih others later
      | some given =>
        have apart : other ≠ name := fun same => fresh (List.mem_map.mpr ⟨_, later, same.symm⟩)
        refine (findMember?_cons name other given _).trans ?_
        rw [if_neg apart, Option.or_none]
        exact ih others later

/-- Members that are texts have the values of the map that they make. -/
theorem findMember?_texts (entries : List (String × String)) (name : String) :
    findMember? name (entries.map fun entry => (entry.1, .text entry.2)) =
      ((KeyMap.ofList entries).get? name).map .text := by
  rw [KeyMap.get?_ofList]
  simp [findMember?, ← List.map_reverse, List.find?_map, Function.comp_def]

/-- What is read as a text is that text. -/
theorem readText?_eq_some {given : Json} {value : String} (read : given.readText? = some value) :
    given = .text value := by
  cases given <;> cases read
  rfl

end Json

/-- Items that all read give values one by one. -/
theorem mapM_eq_some_iff {α β : Type} {read : α → Option β} {items : List α} {values : List β} :
    items.mapM read = some values ↔
      List.Forall₂ (fun item value => read item = some value) items values := by
  -- The induction goes along the items, and the reading stops at the first that fails.
  induction items generalizing values with
  | nil => cases values <;> simp
  | cons item rest ih =>
    rw [List.mapM_cons]
    simp only [Option.bind_eq_bind, Option.bind_eq_some_iff, Option.pure_def, Option.some.injEq]
    constructor
    · rintro ⟨value, first, others, later, rfl⟩
      exact .cons first (ih.mp later)
    · rintro (_ | ⟨first, later⟩)
      exact ⟨_, first, _, ih.mpr later, rfl⟩

namespace Json

/-- What is read as a map of texts is an object of texts. -/
theorem readTextMap?_eq_some {given : Json} {map : KeyMap String}
    (read : given.readTextMap? = some map) : ∃ entries : List (String × String),
      given = .object (entries.map fun entry => (entry.1, .text entry.2)) ∧
        map = KeyMap.ofList entries := by
  -- Only an object is read as a map.
  cases given with
  | object members =>
    obtain ⟨entries, known, rfl⟩ := Option.map_eq_some_iff.mp read
    -- Each member is a text, and the entries are the members without the mark of a text.
    refine ⟨entries, congrArg Json.object ?_, rfl⟩
    refine List.forall₂_eq_eq_eq ▸ ?_
    rw [List.forall₂_map_right_iff]
    refine (mapM_eq_some_iff.mp known).imp ?_
    rintro ⟨name, value⟩ entry read
    obtain ⟨text, told, rfl⟩ := Option.map_eq_some_iff.mp read
    exact congrArg (Prod.mk name) (readText?_eq_some told)
  | _ => cases read

/-- Only the empty object is read as the empty map. -/
theorem eq_empty_of_readTextMap? {given : Json} {map : KeyMap String}
    (read : given.readTextMap? = some map) (empty : map.isEmpty = true) : given = .object [] := by
  obtain ⟨entries, rfl, rfl⟩ := readTextMap?_eq_some read
  cases entries with
  | nil => rfl
  | cons entry rest =>
    -- The map has an entry of the first key, whichever one it is.
    have found := KeyMap.get?_ofList (entry :: rest) entry.1
    rw [KeyMap.get?, List.isEmpty_iff.mp empty] at found
    have missing := List.find?_eq_none.mp (Option.map_eq_none_iff.mp found.symm) entry (by simp)
    simp at missing

/-- What is read as a truth value is that truth value. -/
theorem readBool?_eq_some {given : Json} {value : Bool} (read : given.readBool? = some value) :
    given = .bool value := by
  cases given <;> cases read
  rfl

/-- What is read as a whole number is that number. -/
theorem readInteger?_eq_some {given : Json} {value : Int} (read : given.readInteger? = some value) :
    given = .integer value := by
  cases given with
  | integer number =>
    obtain ⟨_, same⟩ := Option.ite_none_right_eq_some.mp read
    exact congrArg Json.integer (Option.some.inj same)
  | _ => cases read

/-- What is read as a list of texts is that list. -/
theorem readTexts?_eq_some {given : Json} {value : List String}
    (read : given.readTexts? = some value) : given = .ofTexts value := by
  cases given with
  | list items =>
    -- Each item is a text, and a text is written as it was read.
    refine congrArg Json.list (List.forall₂_eq_eq_eq ▸ ?_)
    rw [List.forall₂_map_right_iff]
    exact (mapM_eq_some_iff.mp read).imp fun _ _ => readText?_eq_some
  | _ => cases read

/-- A map of texts that is written reads back. -/
theorem readTextMap?_ofTextMap (map : KeyMap String) : (ofTextMap map).readTextMap? = some map := by
  refine Option.map_eq_some_iff.mpr ⟨map.entries, ?_, map.ofList_entries⟩
  rw [mapM_eq_some_iff, List.forall₂_map_left_iff, List.forall₂_same]
  exact fun _ _ => rfl

end Json

/-- What is read as a set of fields is the value of that set. -/
theorem FieldSet.ofJson?_eq_some {given : Json} {set : FieldSet} (read : ofJson? given = some set) :
    given = set.value := by
  -- Any value but null is taken as it is.
  unfold ofJson? at read
  split at read
  · exact congrArg FieldSet.value (Option.some.inj read)
  · cases read

/-- A moment is written without the fraction of its second. -/
theorem Time.toJson_truncate (time : Time) : time.truncate.toJson = time.toJson := by
  have date : time.truncate.date = time.date := rfl
  have second : time.truncate.second = time.second := rfl
  simp only [toJson, text, date, second]

/-- A moment that was read reads back from its text, unless it is before the year zero. -/
theorem Time.ofJson?_toJson {given : Json} {time : Time} (read : ofJson? given = some time)
    (common : 0 ≤ time.date.year) : ofJson? time.toJson = some time.truncate := by
  rw [ofJson?] at read
  obtain ⟨text, _, parsed⟩ := Option.bind_eq_some_iff.mp read
  rw [ofJson?, toJson, Json.readText?, Option.bind_some]
  exact parse?_text (isMoment_of_parse? parsed) common

/-- What a resource format says of the values of one field. -/
inductive Shape where
  /-- A text, a truth value, a whole number, a list of texts or a set of fields, which stays as it is. -/
  | plain
  /-- A moment, which loses the fraction of its second. -/
  | moment
  /-- A map of texts, which may be left out where it is empty. -/
  | map (vanishes : Bool)
  /-- A list of records. -/
  | list (item : Shape)
  /-- A record of named fields, in the order in which a list may give their values. -/
  | record (fields : List (String × Shape))

namespace Shape

/-- A value counts as absent. -/
def IsAbsent (shape : Shape) (value : Json) : Prop :=
  value = .null ∨ (shape matches .map true) ∧ value = .object []

mutual

/-- A value that is written keeps what one that was given says. -/
def Carries : Shape → (given written : Json) → Prop
  | .plain, given, written => written = given
  | .moment, given, written =>
    ∃ time, Time.ofJson? given = some time ∧ written = time.truncate.toJson
  | .map _, given, written => ∃ members members', given = .object members ∧
    written = .object members' ∧
      ∀ name, Json.findMember? name members' = Json.findMember? name members
  | .list item, given, written => ∃ items items', given = .list items ∧ written = .list items' ∧
    List.Forall₂ item.Carries items items'
  | .record fields, given, written =>
    CarriesFields fields (given.fieldsBy (fields.map Prod.fst)) written.members

/-- Each field that is given and not absent is written under its name, and its value is kept. -/
def CarriesFields : List (String × Shape) → (given written : Fields) → Prop
  | [], _, _ => True
  | (name, shape) :: rest, given, written =>
    (∀ value, Json.findMember? name given = some value → ¬ shape.IsAbsent value →
      ∃ value', Json.findMember? name written = some value' ∧ shape.Carries value value') ∧
    CarriesFields rest given written

end

/-- A field that is given and not absent is written under its name, and its value is kept. -/
def CarriesField (shape : Shape) (name : String) (given written : Fields) : Prop :=
  ∀ value, Json.findMember? name given = some value → ¬ shape.IsAbsent value →
    ∃ value', Json.findMember? name written = some value' ∧ shape.Carries value value'

/-- A record is kept if each of its fields is. -/
theorem carries_record_iff {fields : List (String × Shape)} {given written : Json} :
    (record fields).Carries given written ↔ ∀ field ∈ fields,
      field.2.CarriesField field.1 (given.fieldsBy (fields.map Prod.fst)) written.members := by
  -- The fields are gone through one by one, while the members of both documents stay the same.
  have general (given written : Fields) : CarriesFields fields given written ↔
      ∀ field ∈ fields, field.2.CarriesField field.1 given written := by
    induction fields with
    | nil => simp [CarriesFields]
    | cons field rest ih => rw [CarriesFields, ih, List.forall_mem_cons]; rfl
  rw [Carries]
  exact general _ _

end Shape

/-- The format of a type in documents. It writes what it reads so that nothing is lost but what does
not come back. -/
structure Form (α : Type) where
  /-- What the format says. -/
  shape : Shape
  read : Json → Option α
  write : α → Json
  /-- What comes back of a value that is written and read. -/
  settle : α → α
  /-- A value is one that comes back. -/
  Returns : α → Prop
  /-- What is written does not count as missing. -/
  present : ∀ value, write value ≠ .null
  carries : ∀ {given value}, read given = some value → Returns value →
    shape.Carries given (write value)
  returns : ∀ {given value}, read given = some value → Returns value →
    read (write value) = some (settle value)

namespace Form

variable {α : Type}

/-- The format of values that are written as they were read. -/
@[simps -fullyApplied]
def plain (read : Json → Option α) (write : α → Json) (present : ∀ value, write value ≠ .null)
    (same : ∀ {given value}, read given = some value → given = write value) : Form α where
  shape := .plain
  read
  write
  settle value := value
  Returns _ := True
  present
  carries known _ := by
    rw [Shape.Carries]
    -- A value that is read is the one that was written, so nothing is lost.
    exact (same known).symm
  returns known _ := by
    rw [← same known]
    exact known

/-- The format of texts. -/
abbrev text : Form String := plain Json.readText? .text (fun _ => nofun) Json.readText?_eq_some

/-- The format of truth values. -/
abbrev bool : Form Bool := plain Json.readBool? .bool (fun _ => nofun) Json.readBool?_eq_some

/-- The format of whole numbers. -/
abbrev integer : Form Int :=
  plain Json.readInteger? .integer (fun _ => nofun) Json.readInteger?_eq_some

/-- The format of lists of texts. -/
abbrev texts : Form (List String) :=
  plain Json.readTexts? .ofTexts (fun _ => nofun) Json.readTexts?_eq_some

/-- The format of sets of fields. -/
abbrev fieldSet : Form FieldSet :=
  plain FieldSet.ofJson? FieldSet.value FieldSet.filled FieldSet.ofJson?_eq_some

/-- The empty text comes back. -/
theorem read_write_empty_text : text.read (text.write "") = some "" := rfl

/-- The empty list of texts comes back. -/
theorem read_write_no_texts : texts.read (texts.write []) = some [] := rfl

/-- The format of moments, which are written without the fraction of their second. -/
@[simps -fullyApplied]
def moment : Form Time where
  shape := .moment
  read := Time.ofJson?
  write := Time.toJson
  settle := Time.truncate
  Returns time := 0 ≤ time.date.year
  present time := show Json.text time.text ≠ .null from nofun
  -- The fraction of a second is what is cut off.
  carries {_ time} known _ := by
    rw [Shape.Carries]
    exact ⟨time, known, time.toJson_truncate.symm⟩
  returns := Time.ofJson?_toJson

/-- The format of maps of texts, which are written in the order of their keys. -/
@[simps -fullyApplied]
def textMap (vanishes : Bool) : Form (KeyMap String) where
  shape := .map vanishes
  read := Json.readTextMap?
  write := .ofTextMap
  settle map := map
  Returns _ := True
  present _ := nofun
  carries known _ := by
    rw [Shape.Carries]
    obtain ⟨entries, rfl, rfl⟩ := Json.readTextMap?_eq_some known
    -- The entries may be repeated and in any order, but both objects are read as one map.
    refine ⟨_, _, rfl, rfl, fun name => ?_⟩
    rw [Json.findMember?_texts, Json.findMember?_texts, KeyMap.ofList_entries]
  returns _ _ := Json.readTextMap?_ofTextMap _

/-- Items of a list are kept and come back one by one. -/
theorem forall₂_items (form : Form α) {items : List Json} {values : List α}
    (known : List.Forall₂ (fun item value => form.read item = some value) items values)
    (back : ∀ value ∈ values, form.Returns value) :
    List.Forall₂ form.shape.Carries items (values.map form.write) ∧
      List.Forall₂ (fun item value => form.read item = some value) (values.map form.write)
        (values.map form.settle) := by
  -- The induction goes along the items, of which each follows the format for itself.
  induction known with
  | nil => exact ⟨.nil, .nil⟩
  | cons first _ ih =>
    obtain ⟨here, there⟩ := List.forall_mem_cons.mp back
    obtain ⟨carries, returns⟩ := ih there
    exact ⟨.cons (form.carries first here) carries, .cons (form.returns first here) returns⟩

/-- What is read as a list is a list of items that are read one by one. -/
theorem readList?_eq_some {read : Json → Option α} {given : Json} {values : List α}
    (known : Json.readList? read given = some values) : ∃ items, given = .list items ∧
      List.Forall₂ (fun item value => read item = some value) items values := by
  cases given with
  | list items => exact ⟨items, rfl, mapM_eq_some_iff.mp known⟩
  | _ => cases known

/-- The format of lists of values of a format. -/
@[simps -fullyApplied]
def list (form : Form α) : Form (List α) where
  shape := .list form.shape
  read := Json.readList? form.read
  write values := .list (values.map form.write)
  settle values := values.map form.settle
  Returns values := ∀ value ∈ values, form.Returns value
  present _ := nofun
  carries known back := by
    -- The items come back one by one.
    obtain ⟨items, rfl, apiece⟩ := readList?_eq_some known
    rw [Shape.Carries]
    exact ⟨items, _, rfl, rfl, (form.forall₂_items apiece back).1⟩
  returns known back := by
    obtain ⟨items, rfl, apiece⟩ := readList?_eq_some known
    exact mapM_eq_some_iff.mpr (form.forall₂_items apiece back).2

end Form

end VolumeGroups
