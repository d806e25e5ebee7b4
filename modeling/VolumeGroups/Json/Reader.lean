import VolumeGroups.Json

/-! Reading structured values from text, strictly and with nothing left over. -/

namespace VolumeGroups

namespace Json

/-- Nesting beyond this depth is refused. -/
def maxDepth : Nat := 127

/-- The rest of a text after its blanks. -/
def skipBlanks (input : List Char) : List Char :=
  -- Only these four characters are blank between the parts of a document.
  input.dropWhile fun char => char == ' ' || char == '\t' || char == '\n' || char == '\r'

/-- The value of a hexadecimal digit. -/
def hexDigit? (char : Char) : Option Nat :=
  if char.isDigit then some (char.toNat - '0'.toNat)
  else if 'a' ≤ char ∧ char ≤ 'f' then some (char.toNat - 'a'.toNat + 10)
  else if 'A' ≤ char ∧ char ≤ 'F' then some (char.toNat - 'A'.toNat + 10)
  else none

/-- The number that four hexadecimal digits write, with the rest. -/
def hexQuad? : List Char → Option (Nat × List Char)
  | a :: b :: c :: d :: rest => do
    let a ← hexDigit? a
    let b ← hexDigit? b
    let c ← hexDigit? c
    let d ← hexDigit? d
    return (((a * 16 + b) * 16 + c) * 16 + d, rest)
  | _ => none

/-- The character after the mark of a numbered escape, with the rest. -/
def numberedChar? (input : List Char) : Option (Char × List Char) :=
  match hexQuad? input with
  | none => none
  | some (unit, rest) =>
    if 0xD800 ≤ unit ∧ unit < 0xDC00 then
      -- A high half counts only together with the low half that has to follow.
      match rest with
      | '\\' :: 'u' :: more =>
        match hexQuad? more with
        | some (low, rest) =>
          if 0xDC00 ≤ low ∧ low < 0xE000 then
            some (Char.ofNat (0x10000 + (unit - 0xD800) * 0x400 + (low - 0xDC00)), rest)
          else none
        | none => none
      | _ => none
    else if 0xDC00 ≤ unit ∧ unit < 0xE000 then none
    else some (Char.ofNat unit, rest)

/-- The character that a one-letter escape stands for. -/
def shortEscape? : Char → Option Char
  | '"' => some '"'
  | '\\' => some '\\'
  | '/' => some '/'
  | 'b' => some '\x08'
  | 'f' => some '\x0c'
  | 'n' => some '\n'
  | 'r' => some '\r'
  | 't' => some '\t'
  | _ => none

/-- The characters up to the closing quote, with the rest. -/
def readChars? : Nat → List Char → List Char → Option (String × List Char)
  | 0, _, _ => none
  | _ + 1, _, [] => none
  | steps + 1, read, char :: rest =>
    -- Control characters have to be escaped, every other character may stand for itself.
    if char == '"' then some (String.ofList read.reverse, rest)
    else if char == '\\' then
      match rest with
      | 'u' :: more =>
        match numberedChar? more with
        | some (value, rest) => readChars? steps (value :: read) rest
        | none => none
      | escape :: more =>
        match shortEscape? escape with
        | some value => readChars? steps (value :: read) more
        | none => none
      | [] => none
    else if char.toNat < 0x20 then none
    else readChars? steps (char :: read) rest

/-- The number that decimal digits write. -/
def ofDigits (digits : List Char) : Nat :=
  digits.foldl (fun value digit => 10 * value + (digit.toNat - '0'.toNat)) 0

/-- The exponent after a number, if one is written, with the rest. -/
def readExponent? (input : List Char) : Option (Option Int × List Char) :=
  match input with
  | mark :: rest =>
    if mark == 'e' || mark == 'E' then
      -- The sign of an exponent is its own, whatever the sign of the number.
      let (negative, rest) := match rest with
        | '-' :: more => (true, more)
        | '+' :: more => (false, more)
        | other => (false, other)
      let digits := rest.takeWhile Char.isDigit
      let value : Int := ofDigits digits
      if digits.isEmpty then none
      else some (some (if negative then -value else value), rest.dropWhile Char.isDigit)
    else some (none, input)
  | [] => some (none, input)

/-- The digits after a decimal point, if one is written, with the rest. -/
def readFraction? (input : List Char) : Option (Option (List Char) × List Char) :=
  match input with
  | '.' :: rest =>
    -- A point that no digit follows ends no number.
    let digits := rest.takeWhile Char.isDigit
    if digits.isEmpty then none else some (some digits, rest.dropWhile Char.isDigit)
  | _ => some (none, input)

/-- The number at the front of a text, with the rest. -/
def readNumber? (input : List Char) : Option (Json × List Char) := do
  let (negative, input) := match input with
    | '-' :: rest => (true, rest)
    | other => (false, other)
  let whole := input.takeWhile Char.isDigit
  -- A leading zero stands alone.
  let wellFormed := match whole with
    | [] => false
    | ['0'] => true
    | '0' :: _ => false
    | _ => true
  guard wellFormed
  let (fraction, rest) ← readFraction? (input.dropWhile Char.isDigit)
  let (exponent, rest) ← readExponent? rest
  -- Digits behind the point count into the mantissa, and the exponent goes down by as many.
  let places := fraction.getD []
  let magnitude : Int := ofDigits (whole ++ places)
  let value := if negative then -magnitude else magnitude
  match fraction, exponent with
  | none, none => return (.integer value, rest)
  | _, _ => return (.decimal value (exponent.getD 0 - places.length), rest)

mutual

/-- The value at the front of a text, with the rest, within a number of steps. -/
def readValue? : Nat → Nat → List Char → Option (Json × List Char)
  | 0, _, _ => none
  | steps + 1, depth, input =>
    -- The first character decides what kind of value it is.
    match skipBlanks input with
    | 'n' :: 'u' :: 'l' :: 'l' :: rest => some (.null, rest)
    | 't' :: 'r' :: 'u' :: 'e' :: rest => some (.bool true, rest)
    | 'f' :: 'a' :: 'l' :: 's' :: 'e' :: rest => some (.bool false, rest)
    | '"' :: rest => (readChars? steps [] rest).map fun (value, rest) => (.text value, rest)
    | '[' :: rest =>
      -- The depth is spent on lists and objects only, as nothing else nests.
      if depth = 0 then none
      else match skipBlanks rest with
        | ']' :: rest => some (.list [], rest)
        | _ => (readItems? steps (depth - 1) rest).map fun (items, rest) => (.list items, rest)
    | '{' :: rest =>
      if depth = 0 then none
      else match skipBlanks rest with
        | '}' :: rest => some (.object [], rest)
        | _ =>
          (readMembers? steps (depth - 1) rest).map fun (members, rest) => (.object members, rest)
    | other => readNumber? other

/-- The items up to the closing bracket, with the rest. -/
def readItems? : Nat → Nat → List Char → Option (List Json × List Char)
  | 0, _, _ => none
  | steps + 1, depth, input =>
    match readValue? steps depth input with
    | none => none
    | some (item, rest) =>
      -- A comma has to be followed by another item, so none may stand before the bracket.
      match skipBlanks rest with
      | ',' :: rest => (readItems? steps depth rest).map fun (items, rest) => (item :: items, rest)
      | ']' :: rest => some ([item], rest)
      | _ => none

/-- The members up to the closing brace, with the rest. -/
def readMembers? : Nat → Nat → List Char → Option (List (String × Json) × List Char)
  | 0, _, _ => none
  | steps + 1, depth, input =>
    match skipBlanks input with
    | '"' :: rest =>
      match readChars? steps [] rest with
      | none => none
      -- The name is read like any text, and only then the colon is looked for.
      | some (name, rest) =>
        match skipBlanks rest with
        | ':' :: rest =>
          match readValue? steps depth rest with
          | none => none
          | some (value, rest) =>
            match skipBlanks rest with
            | ',' :: rest =>
              (readMembers? steps depth rest).map fun (members, rest) =>
                ((name, value) :: members, rest)
            | '}' :: rest => some ([(name, value)], rest)
            | _ => none
        | _ => none
    | _ => none

end

/-- The value that a whole text writes. -/
def parse? (input : String) : Option Json :=
  -- Every step reads a character or opens a value, so twice the length is never exhausted.
  let chars := input.toList
  match readValue? (2 * chars.length + 2) maxDepth chars with
  | some (value, rest) => if (skipBlanks rest).isEmpty then some value else none
  | none => none

end Json

end VolumeGroups
