import VolumeGroups.Wire.Varint

/-! Which bytes spell a number in groups of seven bits, and that both the shortest spelling and any
other one reads as that number. -/

namespace VolumeGroups

/-- Some bytes spell a number, where groups without a bit may stand at the end. -/
inductive Spells : Nat → Bytes → Prop
  | last {byte : UInt8} (ends : byte.toNat < 128) : Spells byte.toNat [byte]
  | more {byte : UInt8} {high : Nat} {rest : Bytes} (goesOn : 128 ≤ byte.toNat)
      (spells : Spells high rest) : Spells (byte.toNat - 128 + 128 * high) (byte :: rest)

/-- Some bytes spell a number that fits in sixty-four bits, and there are no more than ten. -/
structure IsVarint (value : Nat) (bytes : Bytes) : Prop where
  spells : Spells value bytes
  short : bytes.length ≤ 10
  small : value < wordBound 64

/-- A number has at least one byte. -/
theorem Spells.length_pos {value : Nat} {bytes : Bytes} (spells : Spells value bytes) :
    0 < bytes.length := by
  cases spells <;> simp

/-- A spelled number is read from the front of any bytes, if it has no more groups than allowed. -/
theorem Spells.readVarintWithin?_append {value count : Nat} {bytes : Bytes}
    (spells : Spells value bytes) (short : bytes.length ≤ count) (rest : Bytes) :
    readVarintWithin? count (bytes ++ rest) = some (value, rest) := by
  -- The induction goes along the groups, each of which takes one of the allowed bytes.
  induction spells generalizing count with
  | last ends =>
    cases count with
    | zero => simp at short
    | succ count => simp [readVarintWithin?, ends]
  | more goesOn spells ih =>
    cases count with
    | zero => simp at short
    | succ count =>
      have later := ih (Nat.le_of_succ_le_succ short)
      simp [readVarintWithin?, Nat.not_lt.mpr goesOn, later]

/-- However a number is spelled, it is read from the front of any bytes. -/
theorem IsVarint.readVarint?_append {value : Nat} {bytes : Bytes} (varint : IsVarint value bytes)
    (rest : Bytes) : readVarint? (bytes ++ rest) = some (value, rest) := by
  have read := varint.spells.readVarintWithin?_append varint.short rest
  simp [readVarint?, read, Option.filter, varint.small]

/-- A written number is spelled. -/
theorem spells_writeVarint (value : Nat) : Spells value (writeVarint value) := by
  -- The induction is on the value, of which each byte takes off the lowest seven bits.
  induction value using Nat.strongRecOn with
  | ind value ih =>
    rw [writeVarint]
    -- The last group has no mark that more would follow.
    split
    · rename_i last
      have byte : (UInt8.ofNat value).toNat = value := by
        rw [UInt8.toNat_ofNat']; omega
      have spelled : Spells (UInt8.ofNat value).toNat [UInt8.ofNat value] := .last (by omega)
      rwa [byte] at spelled
    · rename_i more
      have byte : (UInt8.ofNat (value % 128 + 128)).toNat = value % 128 + 128 := by
        rw [UInt8.toNat_ofNat']; omega
      have spelled : Spells ((UInt8.ofNat (value % 128 + 128)).toNat - 128 + 128 * (value / 128))
          (UInt8.ofNat (value % 128 + 128) :: writeVarint (value / 128)) :=
        .more (by omega) (ih (value / 128) (by omega))
      rwa [byte, show value % 128 + 128 - 128 + 128 * (value / 128) = value by omega] at spelled

/-- A number takes no more bytes than groups of seven bits are needed to hold it. -/
theorem length_writeVarint_le {value count : Nat} (small : value < 128 * Nat.pow 128 count) :
    (writeVarint value).length ≤ count + 1 := by
  -- Every further group of seven bits multiplies what can be told by 128.
  induction count generalizing value with
  | zero =>
    rw [writeVarint, if_pos (by simpa using small)]
    simp
  | succ count ih =>
    rw [writeVarint]
    split
    · simp
    · have high : value / 128 < 128 * Nat.pow 128 count := by
        have power : Nat.pow 128 (count + 1) = Nat.pow 128 count * 128 := rfl
        omega
      simpa using ih high

/-- The shortest spelling of a number that fits in sixty-four bits. -/
theorem isVarint_writeVarint {value : Nat} (small : value < wordBound 64) :
    IsVarint value (writeVarint value) where
  spells := spells_writeVarint value
  short := length_writeVarint_le (Nat.lt_of_lt_of_le small (by decide))
  small := small

end VolumeGroups
