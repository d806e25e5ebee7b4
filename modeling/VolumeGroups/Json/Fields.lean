import VolumeGroups.Json
import VolumeGroups.KeyMap
import VolumeGroups.Word

/-! Reading the named fields of a document into typed values, and writing them back. -/

namespace VolumeGroups

/-- The fields of a document, by name. -/
abbrev Fields := List (String × Json)

namespace Json

/-- A text. -/
def readText? : Json → Option String
  | .text value => some value
  | _ => none

/-- A truth value. -/
def readBool? : Json → Option Bool
  | .bool value => some value
  | _ => none

/-- A whole number that fits in a signed word of 64 bits. -/
def readInteger? : Json → Option Int
  | .integer value => if -wordBound 63 ≤ value ∧ value < wordBound 63 then some value else none
  | _ => none

/-- A list whose items all read. -/
def readList? {α : Type} (read : Json → Option α) : Json → Option (List α)
  | .list items => items.mapM read
  | _ => none

/-- A map whose values all read. -/
def readMap? {α : Type} (read : Json → Option α) : Json → Option (KeyMap α)
  | .object members =>
    -- One value that does not read makes the whole map unreadable.
    let readMember (member : String × Json) : Option (String × α) :=
      (read member.2).map fun value => (member.1, value)
    (members.mapM readMember).map KeyMap.ofList
  | _ => none

/-- A list of texts. -/
def readTexts? : Json → Option (List String) := readList? readText?

/-- A map of texts. -/
def readTextMap? : Json → Option (KeyMap String) := readMap? readText?

/-- The fields of an object. -/
def readFields? : Json → Option Fields
  | .object members => some members
  | _ => none

/-- The fields of an object, or those of a list that gives the values in the fields' own order. -/
def readRecord? (names : List String) : Json → Option Fields
  | .object members => some members
  | .list items => if items.length ≤ names.length then some (names.zip items) else none
  | _ => none

/-- The fields of an object, or those of a list that gives every value in the fields' own order. -/
def readFullRecord? (names : List String) : Json → Option Fields
  | .object members => some members
  | .list items => if items.length = names.length then some (names.zip items) else none
  | _ => none

/-- A list of texts as a value. -/
def ofTexts (texts : List String) : Json := .list (texts.map .text)

/-- A map of texts as a value. -/
def ofTextMap (map : KeyMap String) : Json :=
  .object (map.entries.map fun entry => (entry.1, .text entry.2))

/-- An object of those fields that are there. -/
def ofFields (fields : List (String × Option Json)) : Json :=
  .object (fields.filterMap fun field => field.2.map fun value => (field.1, value))

end Json

namespace Fields

/-- A field that has to be there. -/
def required? {α : Type} (fields : Fields) (name : String) (read : Json → Option α) : Option α :=
  (Json.findMember? name fields).bind read

/-- A field that may be missing or null. -/
def optional? {α : Type} (fields : Fields) (name : String) (read : Json → Option α) :
    Option (Option α) :=
  match Json.findMember? name fields with
  -- A field with null in it counts as missing, while any other value has to read.
  | none => some none
  | some .null => some none
  | some value => (read value).map some

/-- A field that may be missing, where null is a value like any other. -/
def withDefault? {α : Type} (fields : Fields) (name : String) (read : Json → Option α)
    (default : α) : Option α :=
  match Json.findMember? name fields with
  | none => some default
  | some value => read value

/-- A field that may be missing or null and then has a value of its own. -/
def orElse? {α : Type} (fields : Fields) (name : String) (read : Json → Option α) (default : α) :
    Option α :=
  (fields.optional? name read).map (·.getD default)

end Fields

end VolumeGroups
