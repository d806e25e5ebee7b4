/-! Bytes as pairs of hexadecimal digits. -/

namespace VolumeGroups

/-- Why a text is no hexadecimal one. -/
inductive HexError where
  /-- A byte lacks its second digit. -/
  | oddLength
  /-- A character is no hexadecimal digit. -/
  | notDigit
  deriving DecidableEq

/-- What is wrong with the text. -/
def HexError.message : HexError → String
  | .oddLength => "odd hex"
  | .notDigit => "not hex"

/-- The digit of a number below sixteen, in lower case. -/
def hexDigit (value : Nat) : Char :=
  if value < 10 then Char.ofNat ('0'.toNat + value) else Char.ofNat ('a'.toNat + (value - 10))

/-- The number that a digit of either case stands for. -/
def ofHexDigit? (char : Char) : Option Nat :=
  if char.isDigit then some (char.toNat - '0'.toNat)
  else if 'a' ≤ char ∧ char ≤ 'f' then some (char.toNat - 'a'.toNat + 10)
  else if 'A' ≤ char ∧ char ≤ 'F' then some (char.toNat - 'A'.toNat + 10)
  else none

/-- The two digits of a byte, high half first. -/
def hexPair (byte : UInt8) : List Char :=
  [hexDigit (byte.toNat / 16), hexDigit (byte.toNat % 16)]

/-- Bytes as hexadecimal text. -/
def bytesToHex (bytes : List UInt8) : String := String.ofList (bytes.flatMap hexPair)

/-- The bytes that pairs of digits write. -/
def hexPairs : List Char → Except HexError (List UInt8)
  | [] => .ok []
  | [_] => .error .oddLength
  | high :: low :: rest =>
    -- Both digits have to read, as half a byte is none.
    match ofHexDigit? high, ofHexDigit? low with
    | some high, some low => (hexPairs rest).map (UInt8.ofNat (16 * high + low) :: ·)
    | _, _ => .error .notDigit

/-- The bytes that a hexadecimal text writes. -/
def hexToBytes (value : String) : Except HexError (List UInt8) :=
  -- The count is judged before any digit is.
  if value.utf8ByteSize % 2 = 1 then .error .oddLength else hexPairs value.toList

end VolumeGroups
