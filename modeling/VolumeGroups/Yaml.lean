import VolumeGroups.Definition

/-! Values as indented text, one document after another. -/

namespace VolumeGroups

namespace Yaml

/-- A character that gives what follows another meaning than text. -/
def isIndicator (char : Char) : Bool :=
  ['!', '&', '*', '-', '?', ':', '[', ']', '\x7b', '\x7d', ',', '#', '|', '>', '@', '%', '"',
    '\'', '\x60'].contains char

/-- Two characters follow each other somewhere. -/
def hasPair (first second : Char) : List Char → Bool
  | left :: right :: rest =>
    (left == first && right == second) || hasPair first second (right :: rest)
  | _ => false

/-- A text that would be read as something else than a text. -/
def isAmbiguous (text : String) : Bool :=
  ["", "~", "null", "true", "false"].contains text
    || text.toList.all fun char => char.isDigit || ['.', '+', '-', 'e'].contains char

/-- A text on one line that needs no quotes. -/
def isPlain (text : String) : Bool :=
  let chars := text.toList
  !isAmbiguous text && !(chars.head?.any isIndicator) && !hasPair ':' ' ' chars
    && !hasPair ' ' '#' chars && chars.head? != some ' ' && chars.getLast? != some ' '
    && chars.getLast? != some ':'

/-- A text in single quotes, where a quote inside is written twice. -/
def quote (text : String) : String :=
  "'" ++ String.join (text.toList.map fun char =>
    if char == '\'' then "''" else char.toString) ++ "'"

/-- The white space in front of a line. -/
def indent (depth : Nat) (line : String) : String :=
  String.ofList (List.replicate (2 * depth) ' ') ++ line

/-- A text as what follows its mark on the same line, and the lines after that. -/
def scalar (depth : Nat) (text : String) : String × List String :=
  match text.splitOn "\n" with
  | [line] => (if isPlain line then line else quote line, [])
  | lines => ("|-", lines.map (indent depth))

mutual

/-- A value as what follows its name on the same line, and the lines after that. -/
def inline (depth : Nat) : Json → String × List String
  | .null => (" null", [])
  | .bool value => (if value then " true" else " false", [])
  | .integer value => (" " ++ toString value, [])
  | .decimal mantissa exponent => (" " ++ toString mantissa ++ "e" ++ toString exponent, [])
  | .text value =>
    let (start, lines) := scalar (depth + 1) value
    (" " ++ start, lines)
  | .list [] => (" []", [])
  -- The hyphens of a list already set it off, so it is not indented any further.
  | .list (item :: items) => ("", itemLines depth (item :: items))
  | .object [] => (" \x7b\x7d", [])
  | .object (member :: members) => ("", memberLines (depth + 1) (member :: members))

/-- The members of an object, each on lines of its own. -/
def memberLines (depth : Nat) : List (String × Json) → List String
  | [] => []
  | (name, value) :: rest =>
    let (start, lines) := inline depth value
    (indent depth (name ++ ":" ++ start) :: lines) ++ memberLines depth rest

/-- The items of a list, each on lines of its own behind a hyphen. -/
def itemLines (depth : Nat) : List Json → List String
  | [] => []
  | .object (member :: members) :: rest =>
    let lines := memberLines (depth + 1) (member :: members)
    -- The first member stands on the line of the hyphen, which takes up its indentation.
    let first := (lines.head?.map fun line => String.ofList (line.toList.drop (2 * depth + 2)))
    (indent depth ("- " ++ first.getD "") :: lines.tail) ++ itemLines depth rest
  | item :: rest =>
    let (start, lines) := inline depth item
    (indent depth ("-" ++ start) :: lines) ++ itemLines depth rest

end

/-- A value as a document. -/
def document (value : Json) : String :=
  let lines := match value with
    | .object (member :: members) => memberLines 0 (member :: members)
    | .list (item :: items) => itemLines 0 (item :: items)
    -- Empty lists and objects stand on one line, as everything does that is not nested.
    | other => [((inline 0 other).1.dropWhile (· == ' ')).toString]
  String.join (lines.map (· ++ "\n"))

/-- Documents one after another, parted by a line of hyphens. -/
def stream (documents : List Json) : String := "---\n".intercalate (documents.map document)

end Yaml

/-- The text from which a cluster learns the operator's resources. -/
def Definition.text : String := Yaml.stream (Definition.all.map Definition.toJson)

end VolumeGroups
