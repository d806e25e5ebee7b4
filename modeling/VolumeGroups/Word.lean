/-! Words of a number of bits, and the numbers they can hold. -/

namespace VolumeGroups

/-- The first natural number that does not fit in a word of some bits. -/
def wordBound (bits : Nat) : Nat := Nat.pow 2 bits

end VolumeGroups
