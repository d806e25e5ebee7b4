import VolumeGroups.Text.Extending

/-! Texts in double quotes, where every character that would not show as itself is escaped. -/

namespace VolumeGroups

/-- A number in lower-case hexadecimal without leading zeros. -/
def hexText (value : Nat) : String := String.ofList (Nat.toDigits 16 value)

/-- A character as it stands between quotes. -/
def quotedChar (char : Char) : String :=
  match char with
  | '\x00' => "\\0"
  | '\t' => "\\t"
  | '\n' => "\\n"
  | '\r' => "\\r"
  | '"' => "\\\""
  | '\\' => "\\\\"
  | _ =>
    -- A mark that joins its neighbour would not show as a character of its own.
    if isExtending char || isUnprintable char then "\\u\x7b" ++ hexText char.toNat ++ "\x7d"
    else char.toString

/-- A text in quotes. -/
def quoted (value : String) : String :=
  "\"" ++ String.join (value.toList.map quotedChar) ++ "\""

/-- A list of texts, each in quotes, in brackets. -/
def quotedList (values : List String) : String :=
  "[" ++ ", ".intercalate (values.map quoted) ++ "]"

/-- A text that may be missing, in quotes if it is there. -/
def quotedOption : Option String → String
  | some value => "Some(" ++ quoted value ++ ")"
  | none => "None"

end VolumeGroups
