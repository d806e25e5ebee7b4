import Mathlib.Algebra.Group.Nat.Defs
import VolumeGroups.Proofs.Wire.Reading

/-! Texts and their bytes: which bytes are those of a text, by the table of well-formed byte sequences,
and that texts come in the order of their bytes. -/

namespace VolumeGroups

/-- The bytes of a character behind its first: the lowest digits of its code to the base of 64, the
highest of them first. -/
def trailingBytes (code : Nat) : Nat → List UInt8
  | 0 => []
  | count + 1 => UInt8.ofNat (code / 64 ^ count % 64 + 0x80) :: trailingBytes code count

/-- How many bytes follow the first byte of a character, and the first byte, by the character's code. -/
inductive IsHead : Nat → Nat → Nat → Prop where
  | one {code : Nat} (most : code < 0x80) : IsHead code 0 code
  | two {code : Nat} (least : 0x80 ≤ code) (most : code < 0x800) : IsHead code 1 (code / 64 + 0xc0)
  | three {code : Nat} (least : 0x800 ≤ code) (most : code < 0x10000) :
    IsHead code 2 (code / 64 ^ 2 + 0xe0)
  | four {code : Nat} (least : 0x10000 ≤ code) (most : code < 0x110000) :
    IsHead code 3 (code / 64 ^ 3 + 0xf0)

namespace IsHead

variable {one other count number first start : Nat}

/-- A first byte is a byte. -/
theorem lt (head : IsHead one count first) : first < 256 := by
  cases head <;> omega

/-- The code decides the first byte and how many follow. -/
theorem unique (head : IsHead one count first) (again : IsHead one number start) :
    number = count ∧ start = first := by
  cases head <;> cases again <;> first | exact ⟨rfl, rfl⟩ | omega

/-- A larger code has a larger first byte, or the same one and as many bytes behind it. -/
theorem increases (head : IsHead one count first) (larger : IsHead other number start)
    (less : one < other) :
    first < start ∨
      first = start ∧ count = number ∧ one / 64 ^ count = other / 64 ^ count := by
  cases head <;> cases larger <;> omega

end IsHead

/-- A character is encoded as a first byte and those that follow it. -/
theorem encode_eq (char : Char) : ∃ count first, IsHead char.toNat count first ∧
    String.utf8EncodeChar char = UInt8.ofNat first :: trailingBytes char.toNat count := by
  have small : char.toNat < 0x110000 := by
    rcases char.valid with below | between
    · -- A character below the surrogates is small.
      exact Nat.lt_trans below (by decide)
    · exact between.2
  -- In each range of codes the highest digit fits into the first byte.
  simp only [String.utf8EncodeChar, Char.toNat_val]
  split
  · exact ⟨_, _, .one (by omega), rfl⟩
  · split
    · have digit : char.toNat / 64 % 32 = char.toNat / 64 := by omega
      exact ⟨_, _, .two (by omega) (by omega), by simp [trailingBytes, digit]⟩
    · split
      · have digit : char.toNat / 4096 % 16 = char.toNat / 4096 := by omega
        exact ⟨_, _, .three (by omega) (by omega), by simp [trailingBytes, digit]⟩
      · have digit : char.toNat / 262144 % 8 = char.toNat / 262144 := by omega
        exact ⟨_, _, .four (by omega) small, by simp [trailingBytes, digit]⟩

/-- The bytes of a text are those of its characters. -/
theorem toList_toUTF8 (text : String) :
    text.toUTF8.toList = text.toList.flatMap String.utf8EncodeChar := by
  rw [toList_byteArray, String.toUTF8_eq_toByteArray, ← String.utf8Encode_toList, List.utf8Encode,
    List.toList_data_toByteArray]

section Order

/-- Small numbers as bytes come in the order of the numbers. -/
theorem cons_lt_cons_byte {one other : Nat} (small : one < 256) (little : other < 256)
    {rest more : List UInt8} : UInt8.ofNat one :: rest < UInt8.ofNat other :: more ↔
      one < other ∨ one = other ∧ rest < more := by
  rw [List.cons_lt_cons_iff, UInt8.lt_iff_toNat_lt, ← UInt8.toNat_inj, UInt8.toNat_ofNat',
    UInt8.toNat_ofNat', Nat.mod_eq_of_lt small, Nat.mod_eq_of_lt little]

/-- Of two codes with the same higher digits the larger has the larger bytes for the others. -/
theorem trailingBytes_lt {count one other : Nat} (same : one / 64 ^ count = other / 64 ^ count)
    (less : one < other) (rest more : List UInt8) :
    trailingBytes one count ++ rest < trailingBytes other count ++ more := by
  -- The induction goes along the digits from the highest on, up to the first that differs.
  induction count with
  | zero =>
    simp only [Nat.pow_zero, Nat.div_one] at same
    omega
  | succ count ih =>
    rw [Nat.pow_succ, ← Nat.div_div_eq_div_mul, ← Nat.div_div_eq_div_mul] at same
    rw [trailingBytes, trailingBytes, List.cons_append, List.cons_append,
      cons_lt_cons_byte (by omega) (by omega)]
    rcases Nat.eq_or_lt_of_le (Nat.div_le_div_right (c := 64 ^ count) (Nat.le_of_lt less)) with
      equal | smaller
    · exact .inr ⟨by rw [equal], ih equal⟩
    · left
      omega

/-- The bytes of a smaller character come first, whatever follows. -/
theorem encode_lt_encode {one other : Char} (less : one < other) (rest more : List UInt8) :
    String.utf8EncodeChar one ++ rest < String.utf8EncodeChar other ++ more := by
  obtain ⟨count, first, head, bytes⟩ := encode_eq one
  obtain ⟨number, start, larger, others⟩ := encode_eq other
  -- The first bytes decide, and after that the digits that follow.
  rw [bytes, others, List.cons_append, List.cons_append, cons_lt_cons_byte head.lt larger.lt]
  rcases head.increases larger less with smaller | ⟨equal, rfl, same⟩
  · exact .inl smaller
  · exact .inr ⟨equal, trailingBytes_lt same less rest more⟩

/-- Smaller characters have smaller bytes. -/
theorem flatMap_encode_lt {one other : List Char} (less : one < other) :
    one.flatMap String.utf8EncodeChar < other.flatMap String.utf8EncodeChar := by
  -- The induction goes along both lists, up to the first character that differs.
  induction one generalizing other with
  | nil =>
    cases other with
    | nil => exact absurd less (List.lt_irrefl _)
    | cons char rest =>
      obtain ⟨count, first, -, bytes⟩ := encode_eq char
      rw [List.flatMap_nil, List.flatMap_cons, bytes]
      exact List.nil_lt_cons _ _
  | cons char rest ih =>
    cases other with
    | nil => exact absurd less (List.not_lt_nil _)
    | cons next more =>
      rw [List.flatMap_cons, List.flatMap_cons]
      rcases List.cons_lt_cons_iff.mp less with smaller | ⟨rfl, later⟩
      · -- The first characters differ.
        exact encode_lt_encode smaller _ _
      · -- The first characters are the same.
        exact List.append_left_lt (ih later)

/-- Texts come in the order of their bytes. -/
theorem lt_iff_bytes_lt {one other : String} :
    one < other ↔ one.toUTF8.toList < other.toUTF8.toList := by
  rw [toList_toUTF8, toList_toUTF8]
  constructor
  · exact flatMap_encode_lt
  · intro less
    -- Either order of texts is one of bytes, and only one of them can hold.
    rcases Decidable.em (one < other) with before | notBefore
    · exact before
    · rcases Decidable.em (other < one) with after | notAfter
      · exact absurd (flatMap_encode_lt after) (List.lt_asymm less)
      · have same := String.le_antisymm (String.not_lt.mp notAfter) (String.not_lt.mp notBefore)
        exact absurd (same ▸ less) (List.lt_irrefl _)

/-- The order of texts is that of their bytes. -/
theorem le_iff_bytes_le {one other : String} :
    one ≤ other ↔ one.toUTF8.toList ≤ other.toUTF8.toList :=
  String.not_lt.symm.trans ((not_congr lt_iff_bytes_lt).trans List.not_lt)

end Order

/-- A byte that follows the first one of a character. -/
def IsTrailingByte (byte : UInt8) : Prop := 0x80 ≤ byte ∧ byte ≤ 0xbf

/-- The bytes of one character. -/
inductive IsCharacter : List UInt8 → Prop where
  | one {first : UInt8} (most : first ≤ 0x7f) : IsCharacter [first]
  /-- A first byte below `c2` would spell a character that one byte is enough for. -/
  | two {first second : UInt8} (least : 0xc2 ≤ first) (most : first ≤ 0xdf)
    (follows : IsTrailingByte second) : IsCharacter [first, second]
  /-- Two bytes are not enough for the character, and it is no half of a pair of surrogates. -/
  | three {first second third : UInt8} (least : 0xe0 ≤ first) (most : first ≤ 0xef)
    (follows : IsTrailingByte second) (last : IsTrailingByte third)
    (short : first = 0xe0 → 0xa0 ≤ second) (whole : first = 0xed → second ≤ 0x9f) :
    IsCharacter [first, second, third]
  /-- Three bytes are not enough for the character, and there is one of its code. -/
  | four {first second third fourth : UInt8} (least : 0xf0 ≤ first) (most : first ≤ 0xf4)
    (follows : IsTrailingByte second) (goes : IsTrailingByte third) (last : IsTrailingByte fourth)
    (short : first = 0xf0 → 0x90 ≤ second) (known : first = 0xf4 → second ≤ 0x8f) :
    IsCharacter [first, second, third, fourth]

/-- The bytes of characters one after another. -/
inductive IsText : List UInt8 → Prop where
  | nil : IsText []
  | cons {bytes rest : List UInt8} (first : IsCharacter bytes) (others : IsText rest) :
    IsText (bytes ++ rest)

/-- A digit of a code makes a byte that follows another. -/
theorem isTrailingByte_digit (digit : Nat) :
    IsTrailingByte (UInt8.ofNat (digit % 64 + 0x80)) := by
  simp only [IsTrailingByte, UInt8.le_iff_toNat_le, UInt8.toNat_ofNat', UInt8.reduceToNat]
  omega

/-- A character is encoded in bytes of one. -/
theorem isCharacter_encode (char : Char) : IsCharacter (String.utf8EncodeChar char) := by
  -- There are no characters for the codes of surrogates.
  have whole : char.toNat < 0xd800 ∨ 0xdfff < char.toNat ∧ char.toNat < 0x110000 := char.valid
  obtain ⟨count, first, head, bytes⟩ := encode_eq char
  rw [bytes]
  generalize char.toNat = code at head whole
  -- Each bound on the first two bytes is one on the code.
  cases head with
  | one most =>
    refine .one ?_
    simp only [UInt8.le_iff_toNat_le, UInt8.toNat_ofNat', UInt8.reduceToNat]
    omega
  | two least most =>
    refine .two ?_ ?_ (isTrailingByte_digit _)
    all_goals
      simp only [UInt8.le_iff_toNat_le, UInt8.toNat_ofNat', UInt8.reduceToNat]
      omega
  | three least most =>
    refine .three ?_ ?_ (isTrailingByte_digit _) (isTrailingByte_digit _) ?_ ?_
    all_goals
      simp only [UInt8.le_iff_toNat_le, UInt8.toNat_ofNat', UInt8.reduceToNat, ← UInt8.toNat_inj]
      omega
  | four least most =>
    refine .four ?_ ?_ (isTrailingByte_digit _) (isTrailingByte_digit _) (isTrailingByte_digit _) ?_ ?_
    all_goals
      simp only [UInt8.le_iff_toNat_le, UInt8.toNat_ofNat', UInt8.reduceToNat, ← UInt8.toNat_inj]
      omega

/-- A code that is no surrogate's is that of a character, which is encoded with its first byte. -/
theorem exists_encode_eq {code count first : Nat} (head : IsHead code count first)
    (whole : code < 0xd800 ∨ 0xdfff < code) :
    ∃ char, String.utf8EncodeChar char = UInt8.ofNat first :: trailingBytes code count := by
  -- A head is small enough, so the code is one of a character unless it is a surrogate's.
  have valid : code.isValidChar := by
    cases head <;> simp only [Nat.isValidChar] <;> omega
  obtain ⟨number, start, again, bytes⟩ := encode_eq (Char.ofNatAux code valid)
  obtain ⟨rfl, rfl⟩ := head.unique again
  exact ⟨_, bytes⟩

/-- The bytes of one character encode one. -/
theorem IsCharacter.exists_char {bytes : List UInt8} (character : IsCharacter bytes) :
    ∃ char, String.utf8EncodeChar char = bytes := by
  -- The code has a digit from each byte, and the bytes come back from its digits.
  cases character with
  | @one first most =>
    simp only [UInt8.le_iff_toNat_le, UInt8.reduceToNat] at most
    obtain ⟨char, same⟩ := exists_encode_eq (@IsHead.one first.toNat (by omega)) (by omega)
    exact ⟨char, same.trans (by simp [trailingBytes])⟩
  | @two first second least most follows =>
    simp only [IsTrailingByte, UInt8.le_iff_toNat_le, UInt8.reduceToNat] at least most follows
    obtain ⟨char, same⟩ := exists_encode_eq
      (@IsHead.two ((first.toNat - 0xc0) * 64 + (second.toNat - 0x80)) (by omega) (by omega))
      (by omega)
    refine ⟨char, same.trans ?_⟩
    simp only [trailingBytes, List.cons.injEq, ← UInt8.toNat_inj, UInt8.toNat_ofNat', and_true]
    omega
  | @three first second third least most follows last short whole =>
    simp only [IsTrailingByte, UInt8.le_iff_toNat_le, UInt8.reduceToNat, ← UInt8.toNat_inj]
      at least most follows last short whole
    obtain ⟨char, same⟩ := exists_encode_eq
      (@IsHead.three ((first.toNat - 0xe0) * 4096 + (second.toNat - 0x80) * 64
        + (third.toNat - 0x80)) (by omega) (by omega)) (by omega)
    refine ⟨char, same.trans ?_⟩
    simp only [trailingBytes, List.cons.injEq, ← UInt8.toNat_inj, UInt8.toNat_ofNat', and_true]
    omega
  | @four first second third fourth least most follows goes last short known =>
    simp only [IsTrailingByte, UInt8.le_iff_toNat_le, UInt8.reduceToNat, ← UInt8.toNat_inj]
      at least most follows goes last short known
    obtain ⟨char, same⟩ := exists_encode_eq
      (@IsHead.four ((first.toNat - 0xf0) * 262144 + (second.toNat - 0x80) * 4096
        + (third.toNat - 0x80) * 64 + (fourth.toNat - 0x80)) (by omega) (by omega)) (by omega)
    refine ⟨char, same.trans ?_⟩
    simp only [trailingBytes, List.cons.injEq, ← UInt8.toNat_inj, UInt8.toNat_ofNat', and_true]
    omega

/-- Bytes are those of characters exactly if they are the bytes of a text. -/
theorem isText_iff {bytes : List UInt8} :
    IsText bytes ↔ ∃ text : String, text.toUTF8.toList = bytes := by
  constructor
  · intro readable
    -- The induction goes along the characters, each of which has bytes of its own.
    induction readable with
    | nil => exact ⟨"", by rw [toList_toUTF8]; rfl⟩
    | @cons bytes rest first _ ih =>
      obtain ⟨char, rfl⟩ := first.exists_char
      obtain ⟨text, rfl⟩ := ih
      exact ⟨String.ofList (char :: text.toList), by
        rw [toList_toUTF8, toList_toUTF8, String.toList_ofList, List.flatMap_cons]⟩
  · rintro ⟨text, rfl⟩
    rw [toList_toUTF8]
    induction text.toList with
    | nil => exact .nil
    | cons char rest ih => exact .cons (isCharacter_encode char) ih

/-- Bytes are read as the text whose bytes they are. -/
theorem fromUTF8?_eq_some_iff {bytes : List UInt8} {text : String} :
    String.fromUTF8? bytes.toByteArray = some text ↔ text.toUTF8.toList = bytes := by
  have back (content : List UInt8) : content.toByteArray.toList = content := by
    rw [toList_byteArray, List.toList_data_toByteArray]
  constructor
  -- The bytes are read if they are valid, and then the text is made of them.
  · intro read
    unfold String.fromUTF8? at read
    split at read
    · cases read
      exact back bytes
    · cases read
  · rintro rfl
    have same : text.toUTF8.toList.toByteArray = ⟨text.toUTF8.toList.toArray⟩ :=
      ByteArray.ext List.data_toByteArray
    rw [same, fromUTF8?_toUTF8]

/-- No two texts have the same bytes. -/
theorem toList_toUTF8_injective : Function.Injective fun text : String => text.toUTF8.toList := by
  intro one other same
  have read := fromUTF8?_eq_some_iff.mpr (show one.toUTF8.toList = other.toUTF8.toList from same)
  exact Option.some.inj (read.symm.trans (fromUTF8?_eq_some_iff.mpr rfl))

/-- Bytes that are read as no text are those of none. -/
theorem fromUTF8?_eq_none_iff {bytes : List UInt8} :
    String.fromUTF8? bytes.toByteArray = none ↔ ¬ IsText bytes := by
  rw [isText_iff, Option.eq_none_iff_forall_ne_some, not_exists]
  exact forall_congr' fun text => not_congr fromUTF8?_eq_some_iff

end VolumeGroups
