import VolumeGroups.Text.Decimal
import VolumeGroups.Text.Hex
import VolumeGroups.Word

/-! Addresses of sockets on the network, read from text and written in their shortest form. -/

namespace VolumeGroups

/-- A machine's address with the number of a service on it. -/
inductive SocketAddress where
  /-- Four bytes. -/
  | v4 (octets : List Nat) (service : Nat)
  /-- Eight groups of two bytes, with the interface they belong to, zero for any. -/
  | v6 (groups : List Nat) (interface service : Nat)
  deriving DecidableEq, Inhabited

namespace SocketAddress

/-- What stands at the front of a text, with the rest of the text. -/
abbrev Front (α : Type) := List Char → Option (α × List Char)

/-- What follows a character at the front. -/
def readChar (char : Char) : List Char → Option (List Char)
  | first :: rest => if first == char then some rest else none
  | [] => none

/-- A decimal number below a bound, of any number of digits. -/
def readNumber (bound : Nat) : Front Nat := fun text =>
  let digits := text.takeWhile Char.isDigit
  let value := digitsValue digits
  if digits.isEmpty || bound ≤ value then none else some (value, text.drop digits.length)

/-- A byte in up to three decimal digits, the first of which is no idle zero. -/
def readOctet : Front Nat := fun text =>
  let digits := text.takeWhile Char.isDigit
  if 3 < digits.length || (digits.head? == some '0' && 1 < digits.length) then none
  else readNumber 256 text

/-- Four bytes with points between them. -/
def readOctets : Front (List Nat) := fun text => do
  -- The points are between the bytes, so each but the first byte comes after one.
  let (first, rest) ← readOctet text
  let (second, rest) ← readOctet (← readChar '.' rest)
  let (third, rest) ← readOctet (← readChar '.' rest)
  let (fourth, rest) ← readOctet (← readChar '.' rest)
  return ([first, second, third, fourth], rest)

/-- The number of hexadecimal digits. -/
def hexValue (digits : List Char) : Nat :=
  digits.foldl (fun value digit => 16 * value + (ofHexDigit? digit).getD 0) 0

/-- A group of up to four hexadecimal digits. -/
def readGroup : Front Nat := fun text =>
  let digits := text.takeWhile fun char => (ofHexDigit? char).isSome
  if digits.isEmpty || 4 < digits.length then none
  else some (hexValue digits, text.drop digits.length)

/-- The groups that four bytes fill. -/
def groupsOfOctets : List Nat → List Nat
  | [first, second, third, fourth] => [256 * first + second, 256 * third + fourth]
  | _ => []

/-- As many groups as there are up to a limit, with colons between them, and whether four bytes
ended them. -/
def readGroups : (limit : Nat) → (isFirst : Bool) → List Char → List Nat × Bool × List Char
  | 0, _, text => ([], false, text)
  | limit + 1, isFirst, text =>
    let start := if isFirst then some text else readChar ':' text
    -- Four bytes take the place of two groups.
    let embedded := if limit = 0 then none else start.bind readOctets
    match embedded with
    | some (octets, rest) => (groupsOfOctets octets, true, rest)
    | none =>
      match start.bind readGroup with
      | none => ([], false, text)
      | some (group, rest) =>
        let (groups, ended, rest) := readGroups limit false rest
        (group :: groups, ended, rest)

/-- Eight groups, where a double colon may stand for a run of zeros. -/
def readAllGroups : Front (List Nat) := fun text =>
  let (front, ended, rest) := readGroups 8 true text
  -- All eight groups are there, and a double colon would stand for none.
  if front.length = 8 then some (front, rest)
  -- Four bytes end an address, so no double colon may follow them.
  else if ended then none
  else do
    let rest ← readChar ':' (← readChar ':' rest)
    -- The double colon stands for one group at least, so the groups behind it are no more than
    -- this.
    let (back, _, rest) := readGroups (7 - front.length) true rest
    let zeros := List.replicate (8 - front.length - back.length) 0
    return (front ++ zeros ++ back, rest)

/-- The number of a service after its colon. -/
def readService : Front Nat := fun text => do readNumber 65536 (← readChar ':' text)

/-- An interface after its sign, zero if there is none. -/
def readInterface (text : List Char) : Nat × List Char :=
  (((readChar '%' text).bind (readNumber (wordBound 32)))).getD (0, text)

/-- An address of four bytes with the number of a service. -/
def readV4 : Front SocketAddress := fun text => do
  let (octets, rest) ← readOctets text
  let (service, rest) ← readService rest
  return (.v4 octets service, rest)

/-- An address of eight groups in brackets with the number of a service. -/
def readV6 : Front SocketAddress := fun text => do
  let (groups, rest) ← readAllGroups (← readChar '[' text)
  let (interface, rest) := readInterface rest
  let (service, rest) ← readService (← readChar ']' rest)
  return (.v6 groups interface service, rest)

/-- The address that a text writes. -/
def parse? (text : String) : Option SocketAddress := do
  let (address, rest) ← (readV4 text.toList).or (readV6 text.toList)
  guard rest.isEmpty
  return address

/-- Bytes as text with points between them. -/
def octetsText (octets : List Nat) : String := ".".intercalate (octets.map toString)

/-- Groups as text with colons between them. -/
def groupsText (groups : List Nat) : String :=
  ":".intercalate (groups.map fun group => String.ofList (Nat.toDigits 16 group))

/-- The first of the longest runs of zeros, as its start and its length. -/
def longestZeros : (position : Nat) → List Nat → Nat × Nat
  | _, [] => (0, 0)
  | position, group :: rest =>
    let here := ((group :: rest).takeWhile (· == 0)).length
    let later := longestZeros (position + 1) rest
    -- Of runs of one length the first wins, since a later one has to be longer.
    if later.2 ≤ here then (position, here) else later

/-- Eight groups as text, where the longest run of zeros is left out. -/
def ipText (groups : List Nat) : String :=
  match groups with
  -- Addresses that embed four bytes show them as such.
  | [0, 0, 0, 0, 0, 65535, high, low] =>
    "::ffff:" ++ octetsText [high / 256, high % 256, low / 256, low % 256]
  | _ =>
    let (start, length) := longestZeros 0 groups
    -- A single zero is not worth the double colon.
    if length < 2 then groupsText groups
    else groupsText (groups.take start) ++ "::" ++ groupsText (groups.drop (start + length))

/-- An address as text. -/
def text : SocketAddress → String
  | .v4 octets service => octetsText octets ++ ":" ++ toString service
  | .v6 groups interface service =>
    let zone := if interface = 0 then "" else "%" ++ toString interface
    "[" ++ ipText groups ++ zone ++ "]:" ++ toString service

end SocketAddress

end VolumeGroups
