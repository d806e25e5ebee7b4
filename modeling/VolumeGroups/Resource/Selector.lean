import VolumeGroups.KeyMap

/-! Label selectors: which sets of labels they match, and which of them make no sense. -/

namespace VolumeGroups

/-- A condition on one label, as it is written. -/
structure Requirement where
  key : String
  operator : String
  values : Option (List String)
  deriving DecidableEq, Inhabited

/-- A selector of labels, as it is written. -/
structure LabelSelector where
  matchLabels : Option (KeyMap String) := none
  matchExpressions : Option (List Requirement) := none
  deriving DecidableEq, Inhabited

/-- Why a selector makes no sense. -/
inductive SelectorError where
  /-- A comparison with values lists none. -/
  | missingValues
  /-- The operator is not one of the four. -/
  | unknownOperator
  deriving DecidableEq

/-- What is wrong with the selector. -/
def SelectorError.message : SelectorError → String
  | .missingValues => "failed to parse value as expression: Expected values for In operator, got none"
  | .unknownOperator => "failed to parse value as expression: Invalid expression operator"

/-- A condition on one label, once it makes sense. -/
inductive LabelTest where
  /-- The label is there with one of the values. -/
  | among (key : String) (values : List String)
  /-- The label is not there with any of the values. -/
  | notAmong (key : String) (values : List String)
  /-- The label is there. -/
  | present (key : String)
  /-- The label is not there. -/
  | absent (key : String)
  deriving DecidableEq

namespace LabelTest

/-- The labels meet the condition. -/
def holds (labels : KeyMap String) : LabelTest → Bool
  | .among key values => (labels.get? key).any fun value => values.contains value
  | .notAmong key values => !(labels.get? key).any fun value => values.contains value
  | .present key => labels.contains key
  | .absent key => !labels.contains key

end LabelTest

/-- The condition that a requirement writes. -/
def Requirement.test (requirement : Requirement) : Except SelectorError LabelTest :=
  -- An empty list of values is one that nothing is among, a missing list is a mistake.
  match requirement.operator, requirement.values with
  | "In", some values => .ok (.among requirement.key values)
  | "In", none => .error .missingValues
  | "NotIn", some values => .ok (.notAmong requirement.key values)
  | "NotIn", none => .error .missingValues
  | "Exists", _ => .ok (.present requirement.key)
  | "DoesNotExist", _ => .ok (.absent requirement.key)
  | _, _ => .error .unknownOperator

/-- The conditions of some requirements in order, or the mistake of the first that makes no
sense. -/
def testsOf : List Requirement → Except SelectorError (List LabelTest)
  | [] => .ok []
  | requirement :: rest =>
    -- The first mistake ends the walk, as the ones behind it are not told.
    match requirement.test with
    | .error error => .error error
    | .ok test => (testsOf rest).map (test :: ·)

namespace LabelSelector

/-- All conditions of a selector. -/
def tests (selector : LabelSelector) : Except SelectorError (List LabelTest) :=
  let equalities := (selector.matchLabels.getD ∅).entries.map fun entry =>
    LabelTest.among entry.1 [entry.2]
  (testsOf (selector.matchExpressions.getD [])).map (equalities ++ ·)

/-- The labels meet every condition of the selector. -/
def matchesLabels (selector : LabelSelector) (labels : KeyMap String) :
    Except SelectorError Bool :=
  -- Mistakes count even where an earlier condition already fails.
  selector.tests.map fun tests => tests.all fun test => test.holds labels

end LabelSelector

end VolumeGroups
