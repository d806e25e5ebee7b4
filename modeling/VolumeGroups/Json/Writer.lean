import VolumeGroups.Json
import VolumeGroups.KeyMap
import VolumeGroups.Text.Decimal

/-! Values written as strict text on one line, with the members of an object in the order of
their names. -/

namespace VolumeGroups

namespace Json

/-- A digit of four bits. -/
def escapeDigit (value : Nat) : Char := (Nat.digitChar value)

/-- A character as it stands between double quotes. -/
def escapedChar (char : Char) : String :=
  match char with
  | '"' => "\\\""
  | '\\' => "\\\\"
  | '\n' => "\\n"
  | '\r' => "\\r"
  | '\t' => "\\t"
  | '\x08' => "\\b"
  | '\x0c' => "\\f"
  | _ =>
    if char.toNat < 0x20 then
      "\\u00" ++ String.ofList [escapeDigit (char.toNat / 16), escapeDigit (char.toNat % 16)]
    else char.toString

/-- A text between double quotes. -/
def quotedText (value : String) : String :=
  "\"" ++ String.join (value.toList.map escapedChar) ++ "\""

/-- An integer times a power of ten, without an exponent. -/
def decimalText (mantissa exponent : Int) : String :=
  if 0 ≤ exponent then toString (mantissa * tenTo exponent.toNat) ++ ".0"
  else
    -- There are always digits on both sides of the point, so zeros are filled in.
    let places := (-exponent).toNat
    let digits := Nat.toDigits 10 mantissa.natAbs
    let filled := List.replicate (places + 1 - digits.length) '0' ++ digits
    let sign := if mantissa < 0 then "-" else ""
    sign ++ String.ofList (filled.take (filled.length - places)) ++ "."
      ++ String.ofList (filled.drop (filled.length - places))

mutual

/-- A value as text. -/
def compact : Json → String
  | .null => "null"
  | .bool value => if value then "true" else "false"
  | .integer value => toString value
  | .decimal mantissa exponent => decimalText mantissa exponent
  | .text value => quotedText value
  | .list items => "[" ++ ",".intercalate (itemTexts items) ++ "]"
  | .object members =>
    -- Of two members with one name the last is written, and names go in their order.
    let texts := (KeyMap.ofList (memberTexts members)).entries
    "\x7b" ++ ",".intercalate (texts.map fun entry => quotedText entry.1 ++ ":" ++ entry.2)
      ++ "\x7d"

/-- Some values as texts. -/
def itemTexts : List Json → List String
  | [] => []
  | item :: rest => item.compact :: itemTexts rest

/-- The values of some members as texts. -/
def memberTexts : List (String × Json) → List (String × String)
  | [] => []
  | (name, value) :: rest => (name, value.compact) :: memberTexts rest

end

end Json

end VolumeGroups
