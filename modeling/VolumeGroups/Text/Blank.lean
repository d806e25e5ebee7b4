/-! Characters that count as blank space. -/

namespace VolumeGroups

/-- A character that is blank space in any script. -/
def isBlank (char : Char) : Bool :=
  let point := char.toNat
  (0x09 ≤ point && point ≤ 0x0D) || point == 0x20 || point == 0x85 || point == 0xA0
    || point == 0x1680 || (0x2000 ≤ point && point ≤ 0x200A) || point == 0x2028
    || point == 0x2029 || point == 0x202F || point == 0x205F || point == 0x3000

/-- A text of blank space only. -/
def isBlankText (value : String) : Bool := value.toList.all isBlank

end VolumeGroups
