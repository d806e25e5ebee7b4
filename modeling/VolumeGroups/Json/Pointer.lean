import VolumeGroups.Json

/-! Pointers that name a place inside a structured value by a path of tokens. -/

namespace VolumeGroups

/-- A token with its two escapes undone, where ~1 stands for a slash and ~0 for a tilde. -/
def unescapeToken : List Char → List Char
  -- The longer spellings come first, so a tilde that starts neither stands for itself.
  | '~' :: '1' :: rest => '/' :: unescapeToken rest
  | '~' :: '0' :: rest => '~' :: unescapeToken rest
  | char :: rest => char :: unescapeToken rest
  | [] => []

/-- The position a token names in a list, in decimal without sign or leading zero. -/
def positionOfToken? (token : List Char) : Option Nat :=
  match token with
  | [] => none
  | ['0'] => some 0
  -- Every other position starts with a digit that is no zero.
  | first :: _ =>
    if first == '0' || !token.all Char.isDigit then none
    else some (token.foldl (fun value digit => 10 * value + (digit.toNat - '0'.toNat)) 0)

/-- The value inside a value at the end of a path of tokens. -/
def Json.descend? : Json → List (List Char) → Option Json
  | value, [] => some value
  | .object members, token :: path =>
    -- The escapes of a token are undone only when the path is already cut into tokens.
    (Json.findMember? (String.ofList (unescapeToken token)) members).bind fun value =>
      value.descend? path
  | .list items, token :: path =>
    (positionOfToken? token).bind fun position =>
      items[position]?.bind fun value => value.descend? path
  | _, _ :: _ => none
  termination_by _ path => path.length

/-- The characters between separators, one part more than there are separators. -/
def splitAt (separator : Char) : List Char → List (List Char)
  | [] => [[]]
  -- The parts behind come first, since a character joins the part that follows it.
  | char :: rest =>
    match splitAt separator rest with
    | [] => [[char]]
    | part :: parts => if char == separator then [] :: part :: parts else (char :: part) :: parts

/-- The value that a pointer names, where the empty pointer names the whole. -/
def Json.pointer? (value : Json) (pointer : String) : Option Json :=
  match pointer.toList with
  | [] => some value
  | '/' :: path => value.descend? (splitAt '/' path)
  | _ => none

end VolumeGroups
