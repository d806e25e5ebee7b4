import VolumeGroups.Json.Fields

/-! Schemas, which say what the values of a document have to look like. -/

namespace VolumeGroups

/-- A condition that a value has to meet, in the server's own language. -/
structure SchemaRule where
  message : String
  rule : String

/-- What is told of a value apart from its shape. -/
structure SchemaFacts where
  description : Option String := none
  nullable : Bool := false
  default : Option Json := none
  rules : List SchemaRule := []

/-- What a value has to look like. -/
inductive Schema where
  /-- A text, perhaps of some format. -/
  | text (facts : SchemaFacts) (format : Option String)
  /-- A truth value. -/
  | truth (facts : SchemaFacts)
  /-- A list of values that look alike. -/
  | list (facts : SchemaFacts) (items : Schema)
  /-- A map to values that look alike. -/
  | map (facts : SchemaFacts) (values : Schema)
  /-- A record of named values, some of which have to be there. -/
  | record (facts : SchemaFacts) (fields : List (String × Schema)) (required : List String)

namespace SchemaFacts

/-- A description and nothing else. -/
def about (description : String) : SchemaFacts := { description := some description }

/-- The facts that come before a shape's own, as fields. -/
def leading (facts : SchemaFacts) : List (String × Option Json) :=
  [("default", facts.default), ("description", facts.description.map .text)]

/-- The fact that a value may be null, as a field. -/
def nullability (facts : SchemaFacts) : String × Option Json :=
  ("nullable", if facts.nullable then some (.bool true) else none)

/-- The conditions as a field. -/
def validations (facts : SchemaFacts) : String × Option Json :=
  let documents := facts.rules.map fun rule =>
    Json.object [("message", .text rule.message), ("rule", .text rule.rule)]
  ("x-kubernetes-validations", if documents.isEmpty then none else some (.list documents))

end SchemaFacts

namespace Schema

/-- The name of a shape as a field. -/
def typeField (name : String) : String × Option Json := ("type", some (.text name))

/-- The fields that have to be there as a field, unless none has to. -/
def requiredField (names : List String) : String × Option Json :=
  ("required", if names.isEmpty then none else some (.ofTexts names))

mutual

/-- The document of a schema, with its fields in the order of their names. -/
def toJson : Schema → Json
  -- The fields are written in the order of their names, so each kind puts its own between them.
  | .text facts format =>
    .ofFields
      (facts.leading
        ++ [("format", format.map .text), facts.nullability, typeField "string",
          facts.validations])
  | .truth facts =>
    .ofFields (facts.leading ++ [facts.nullability, typeField "boolean", facts.validations])
  | .list facts items =>
    .ofFields
      (facts.leading
        ++ [("items", some items.toJson), facts.nullability, typeField "array",
          facts.validations])
  | .map facts values =>
    .ofFields
      ([("additionalProperties", some values.toJson)] ++ facts.leading
        ++ [facts.nullability, typeField "object", facts.validations])
  | .record facts fields required =>
    .ofFields
      (facts.leading
        ++ [facts.nullability, ("properties", some (.object (fieldsToJson fields))),
          requiredField required, typeField "object", facts.validations])

/-- The documents of some named schemas. -/
def fieldsToJson : List (String × Schema) → List (String × Json)
  | [] => []
  | (name, schema) :: rest => (name, schema.toJson) :: fieldsToJson rest

end

/-- A text of which nothing is told. -/
def anyText : Schema := .text {} none

/-- A text that is described. -/
def textAbout (description : String) : Schema := .text (.about description) none

/-- A text that may be null. -/
def optionalText : Schema := .text { nullable := true } none

/-- A truth value that may be null. -/
def optionalTruth : Schema := .truth { nullable := true }

end Schema

end VolumeGroups
