/-! Bytes as text of sixty-four characters, padded to groups of four. -/

namespace VolumeGroups

/-- The character of a number below sixty-four. -/
def sextetChar (value : Nat) : Char :=
  -- The alphabet has capital letters, small letters and digits in this order, then two signs.
  if value < 26 then Char.ofNat ('A'.toNat + value)
  else if value < 52 then Char.ofNat ('a'.toNat + (value - 26))
  else if value < 62 then Char.ofNat ('0'.toNat + (value - 52))
  else if value = 62 then '+'
  else '/'

/-- The number of a character. -/
def ofSextetChar? (char : Char) : Option Nat :=
  if 'A' ≤ char ∧ char ≤ 'Z' then some (char.toNat - 'A'.toNat)
  else if 'a' ≤ char ∧ char ≤ 'z' then some (char.toNat - 'a'.toNat + 26)
  else if '0' ≤ char ∧ char ≤ '9' then some (char.toNat - '0'.toNat + 52)
  else if char = '+' then some 62
  else if char = '/' then some 63
  else none

/-- Bytes as characters, three bytes to a group of four. -/
def base64Chars : List UInt8 → List Char
  -- Six bits go to a character, and what is left of a byte starts the next one.
  | [] => []
  | [a] =>
    [sextetChar (a.toNat / 4), sextetChar (a.toNat % 4 * 16), '=', '=']
  | [a, b] =>
    [sextetChar (a.toNat / 4), sextetChar (a.toNat % 4 * 16 + b.toNat / 16),
      sextetChar (b.toNat % 16 * 4), '=']
  | a :: b :: c :: rest =>
    sextetChar (a.toNat / 4) :: sextetChar (a.toNat % 4 * 16 + b.toNat / 16)
      :: sextetChar (b.toNat % 16 * 4 + c.toNat / 64) :: sextetChar (c.toNat % 64)
      :: base64Chars rest

/-- Bytes as padded text. -/
def toBase64 (bytes : List UInt8) : String := String.ofList (base64Chars bytes)

/-- The bytes that groups of four characters write, where only the last may be padded. -/
def ofBase64Chars? : List Char → Option (List UInt8)
  | [] => some []
  | [a, b, '=', '='] => do
    -- Padding stands for bytes that are not there, so only the front is read.
    let a ← ofSextetChar? a
    let b ← ofSextetChar? b
    -- The bits that no byte takes have to be zero, so each value has one spelling.
    guard (b % 16 = 0)
    return [UInt8.ofNat (a * 4 + b / 16)]
  | [a, b, c, '='] => do
    let a ← ofSextetChar? a
    let b ← ofSextetChar? b
    let c ← ofSextetChar? c
    guard (c % 4 = 0)
    return [UInt8.ofNat (a * 4 + b / 16), UInt8.ofNat (b % 16 * 16 + c / 4)]
  | a :: b :: c :: d :: rest => do
    let a ← ofSextetChar? a
    let b ← ofSextetChar? b
    let c ← ofSextetChar? c
    let d ← ofSextetChar? d
    let rest ← ofBase64Chars? rest
    return UInt8.ofNat (a * 4 + b / 16) :: UInt8.ofNat (b % 16 * 16 + c / 4)
      :: UInt8.ofNat (c % 4 * 64 + d) :: rest
  | _ => none

/-- The bytes that a padded text writes. -/
def ofBase64? (value : String) : Option (List UInt8) := ofBase64Chars? value.toList

end VolumeGroups
