/-! Numbers in decimal digits. -/

namespace VolumeGroups

/-- The number that decimal digits write. -/
def digitsValue (digits : List Char) : Nat :=
  digits.foldl (fun value digit => 10 * value + (digit.toNat - '0'.toNat)) 0

/-- A power of ten. -/
def tenTo (places : Nat) : Nat := Nat.pow 10 places

/-- The number below a bound that a text of digits writes, after a plus sign or none. -/
def unsignedBelow? (bound : Nat) (value : String) : Option Nat :=
  let digits := match value.toList with
    | '+' :: rest => rest
    | other => other
  -- Leading zeros are allowed, an empty run of digits is not.
  if digits.isEmpty || !digits.all Char.isDigit then none
  else if digitsValue digits < bound then some (digitsValue digits) else none

end VolumeGroups
