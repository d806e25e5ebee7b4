/-! Structured values as documents hold them, and the merge patch that edits one with another. -/

namespace VolumeGroups

/-- A structured value. -/
inductive Json where
  /-- The absent value. -/
  | null
  /-- A truth value. -/
  | bool (value : Bool)
  /-- A number written without fraction or exponent. -/
  | integer (value : Int)
  /-- Any other number, as an integer times a power of ten. -/
  | decimal (mantissa exponent : Int)
  /-- A text. -/
  | text (value : String)
  /-- Values in order. -/
  | list (items : List Json)
  /-- Named values, where the last of two with one name counts. -/
  | object (members : List (String × Json))
  deriving Inhabited

namespace Json

/-- The members of an object, and none of anything else. -/
def members : Json → List (String × Json)
  | .object members => members
  | _ => []

/-- Members without those of a name. -/
def eraseMember (name : String) (members : List (String × Json)) : List (String × Json) :=
  members.filter fun member => member.1 != name

/-- Members with one of a name set, in its old place if it had one. -/
def setMember (name : String) (value : Json) : List (String × Json) → List (String × Json)
  | [] => [(name, value)]
  | (other, old) :: rest =>
    -- Later duplicates go, since they would shadow the new value.
    if other == name then (name, value) :: eraseMember name rest
    else (other, old) :: setMember name value rest

/-- The member of a name, the last one if there are several. -/
def findMember? (name : String) (members : List (String × Json)) : Option Json :=
  (members.reverse.find? fun member => member.1 == name).map Prod.snd

mutual

/-- A value edited by a patch: an object changes member by member, anything else takes the
value's place. -/
def merge (target : Json) : Json → Json
  -- A change that is an object reaches into the target, and null in it removes a member.
  | .object changes => .object (mergeMembers target.members changes)
  | .null => .null
  | .bool value => .bool value
  | .integer value => .integer value
  | .decimal mantissa exponent => .decimal mantissa exponent
  | .text value => .text value
  | .list items => .list items

/-- Members edited by a patch: a null erases, anything else edits what stands under the name. -/
def mergeMembers (members : List (String × Json)) : List (String × Json) → List (String × Json)
  | [] => members
  | (name, .null) :: rest => mergeMembers (eraseMember name members) rest
  | (name, change) :: rest =>
    -- A member that is not there yet is edited as if it were null.
    let old := (findMember? name members).getD .null
    mergeMembers (setMember name (old.merge change) members) rest

end

mutual

/-- Two values are the same. -/
def same : Json → Json → Bool
  | .null, .null => true
  | .bool one, .bool other => one == other
  | .integer one, .integer other => one == other
  -- Numbers of different forms are different, even where they stand for one number.
  | .decimal mantissa exponent, .decimal other power => mantissa == other && exponent == power
  | .text one, .text other => one == other
  | .list items, .list others => sameItems items others
  | .object members, .object others => sameMembers members others
  | _, _ => false

/-- Two lists hold the same values in the same order. -/
def sameItems : List Json → List Json → Bool
  | [], [] => true
  | item :: items, other :: others => item.same other && sameItems items others
  | _, _ => false

/-- Two objects have the same members in the same order. -/
def sameMembers : List (String × Json) → List (String × Json) → Bool
  | [], [] => true
  | (name, value) :: rest, (other, given) :: others =>
    name == other && value.same given && sameMembers rest others
  | _, _ => false

end

mutual

/-- Values are found the same exactly if they are equal. -/
theorem same_iff : (one other : Json) → (one.same other = true ↔ one = other)
  -- The cases follow the comparison, with the parts of lists and objects compared by their own
  -- laws.
  | .null, other | .bool _, other | .integer _, other | .decimal .., other | .text _, other => by
    cases other <;> simp [same]
  | .list items, other => by
    cases other <;> simp [same, sameItems_iff items]
  | .object members, other => by
    cases other <;> simp [same, sameMembers_iff members]

/-- Lists are found the same exactly if they are equal. -/
theorem sameItems_iff : (items others : List Json) → (sameItems items others = true ↔ items = others)
  | [], others => by cases others <;> simp [sameItems]
  | item :: items, others => by
    cases others <;> simp [sameItems, same_iff item, sameItems_iff items]

/-- Members are found the same exactly if they are equal. -/
theorem sameMembers_iff : (members others : List (String × Json)) →
    (sameMembers members others = true ↔ members = others)
  | [], others => by cases others <;> simp [sameMembers]
  | (name, value) :: rest, others => by
    cases others <;> simp [sameMembers, same_iff value, sameMembers_iff rest, Prod.ext_iff]

end

instance : DecidableEq Json := fun one other => decidable_of_iff _ (one.same_iff other)
end Json

end VolumeGroups
