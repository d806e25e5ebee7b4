import VolumeGroups.Word

/-! Numbers in groups of seven bits, the low groups first, where the high bit of a byte tells
that more follow. -/

namespace VolumeGroups

/-- Bytes in order. -/
abbrev Bytes := List UInt8

/-- A number in as few bytes as it needs. -/
def writeVarint (value : Nat) : Bytes :=
  if value < 128 then [UInt8.ofNat value]
  else UInt8.ofNat (value % 128 + 128) :: writeVarint (value / 128)
  termination_by value

/-- The number at the front of some bytes, in no more than a count of bytes. -/
def readVarintWithin? : Nat → Bytes → Option (Nat × Bytes)
  | 0, _ => none
  | _ + 1, [] => none
  | count + 1, byte :: rest =>
    -- The highest bit tells that another byte follows.
    if byte.toNat < 128 then some (byte.toNat, rest)
    else
      (readVarintWithin? count rest).map fun (high, rest) =>
        (byte.toNat - 128 + 128 * high, rest)

/-- The number at the front of some bytes, which fits in sixty-four bits. -/
def readVarint? (bytes : Bytes) : Option (Nat × Bytes) :=
  -- Ten groups hold seventy bits, so the last one may still carry too much.
  (readVarintWithin? 10 bytes).filter fun (value, _) => value < wordBound 64

end VolumeGroups
