import Mathlib.Algebra.Group.Nat.Defs
import Mathlib.Data.Option.Basic
import VolumeGroups.Time

/-! What is read as a moment is one of the calendar, and a moment that is not before the year zero
reads back from its text without the fraction of its second. -/

namespace VolumeGroups

namespace Date

/-- Months are between 28 and 31 days long. -/
theorem daysInMonth_bounds (year : Int) (month : Nat) :
    28 ≤ daysInMonth year month ∧ daysInMonth year month ≤ 31 := by
  unfold daysInMonth
  split
  · split <;> omega
  · split <;> omega

/-- What makes a day one of the calendar. -/
theorem isValid_iff {date : Date} : date.isValid = true ↔
    1 ≤ date.month ∧ date.month ≤ 12 ∧ 1 ≤ date.day ∧
      date.day ≤ daysInMonth date.year date.month := by
  simp [isValid, and_assoc]

/-- The day after is one of the calendar. -/
theorem isValid_next {date : Date} (valid : date.isValid = true) : date.next.isValid = true := by
  obtain ⟨low, high, first, last⟩ := isValid_iff.mp valid
  have bounds := daysInMonth_bounds
  -- The next day lies in the same month, begins the next month, or begins the next year.
  unfold next
  split
  · exact isValid_iff.mpr ⟨low, high, by simp, by assumption⟩
  · split
    · refine isValid_iff.mpr ⟨by simp, by assumption, by simp, ?_⟩
      exact Nat.le_trans (show 1 ≤ 28 by decide) (bounds _ _).1
    · refine isValid_iff.mpr ⟨by simp, by simp, by simp, ?_⟩
      exact Nat.le_trans (show 1 ≤ 28 by decide) (bounds _ _).1

/-- The day before is one of the calendar. -/
theorem isValid_previous {date : Date} (valid : date.isValid = true) :
    date.previous.isValid = true := by
  obtain ⟨low, high, first, last⟩ := isValid_iff.mp valid
  -- The day before lies in the same month, ends the month before, or ends the year before.
  unfold previous
  split
  · refine isValid_iff.mpr ⟨low, high, ?_, ?_⟩
    · show 1 ≤ date.day - 1
      omega
    · exact Nat.le_trans (Nat.sub_le _ _) last
  · split
    · refine isValid_iff.mpr ⟨?_, ?_, ?_, Nat.le_refl _⟩
      · show 1 ≤ date.month - 1
        omega
      · show date.month - 1 ≤ 12
        omega
      · exact Nat.le_trans (by decide) (daysInMonth_bounds _ _).1
    · exact isValid_iff.mpr ⟨by simp, by simp, by simp, (by decide : 31 ≤ 31)⟩

/-- Days that follow one another by valid steps are of the calendar. -/
theorem isValid_repeat {step : Date → Date}
    (steps : ∀ {date : Date}, date.isValid = true → (step date).isValid = true) {date : Date}
    (valid : date.isValid = true) (count : Nat) : (count.repeat step date).isValid = true := by
  induction count with
  | zero => exact valid
  | succ count ih => exact steps ih

/-- A day some days away is one of the calendar. -/
theorem isValid_shift {date : Date} (valid : date.isValid = true) (days : Int) :
    (date.shift days).isValid = true := by
  cases days with
  | ofNat days => exact isValid_repeat isValid_next valid days
  | negSucc days => exact isValid_repeat isValid_previous valid (days + 1)

end Date

namespace Time

/-- A moment of the calendar that can be told. -/
structure IsMoment (time : Time) : Prop where
  valid : time.date.isValid = true
  second : time.second < 86400
  inRange : time.inRange = true

/-- A day that is read is one of the calendar. -/
theorem isValid_of_readDate? {text rest : List Char} {date : Date}
    (read : readDate? text = some (date, rest)) : date.isValid = true := by
  unfold readDate? at read
  -- The year comes first, and what is read of it plays no part here.
  simp only [Option.bind_eq_bind, Option.bind_eq_some_iff] at read
  obtain ⟨⟨year, rest⟩, _, read⟩ := read
  -- The parts may have hyphens between them or not, and the day is checked either way.
  split at read
  · simp only [Option.bind_eq_some_iff] at read
    obtain ⟨⟨month, rest⟩, _, read⟩ := read
    split at read
    · simp only [Option.bind_eq_some_iff, Option.ite_none_right_eq_some] at read
      obtain ⟨⟨day, rest⟩, _, valid, same⟩ := read
      cases same
      exact valid
    · cases read
  · simp only [Option.bind_eq_some_iff, Option.ite_none_right_eq_some] at read
    obtain ⟨⟨month, rest⟩, _, ⟨day, rest⟩, _, valid, same⟩ := read
    cases same
    exact valid

/-- A local time of a day is a second of a day, in universal time. -/
theorem second_ofLocal_lt (date : Date) (second nanosecond : Nat) (ahead : Int) :
    (ofLocal date second nanosecond ahead).second < 86400 := by
  -- The remainder of a flooring division is never negative, also where the clock runs behind.
  have low := Int.fmod_nonneg_of_pos ((second : Int) - ahead) (show (0 : Int) < 86400 by decide)
  have high := Int.fmod_lt_of_pos ((second : Int) - ahead) (show (0 : Int) < 86400 by decide)
  show (((second : Int) - ahead).fmod 86400).toNat < 86400
  omega

/-- A moment that is read is one of the calendar. -/
theorem isMoment_of_parse? {text : String} {time : Time} (read : parse? text = some time) :
    time.IsMoment := by
  unfold parse? at read
  simp only [Option.bind_eq_bind, Option.bind_eq_some_iff] at read
  obtain ⟨⟨date, rest⟩, dated, read⟩ := read
  -- The zone may move the day that is written by one, which keeps it in the calendar.
  split at read
  · simp only [Option.bind_eq_some_iff, Option.ite_none_right_eq_some] at read
    obtain ⟨_, _, ⟨second, nanosecond, rest⟩, _, ⟨ahead, rest⟩, _, _, _, inRange, same⟩ := read
    obtain rfl := Option.some.inj same
    exact ⟨Date.isValid_shift (isValid_of_readDate? dated) _, second_ofLocal_lt .., inRange⟩
  · cases read

/-- A moment not before the year zero can be told exactly if it is not after the last one. -/
theorem inRange_iff {time : Time} (common : 0 ≤ time.date.year) :
    time.inRange = true ↔ ¬ last.parts < time.parts := by
  -- The first moment that can be told has a negative year, which decides the comparison.
  have later : ¬ time.parts < first.parts := by
    simp only [parts, first, List.cons_lt_cons_iff]
    omega
  simp [inRange, later]

/-- The year of a moment that is not before the year zero has four digits at most. -/
theorem IsMoment.year_le {time : Time} (moment : time.IsMoment) (common : 0 ≤ time.date.year) :
    time.date.year ≤ 9999 := by
  have range := (inRange_iff common).mp moment.inRange
  simp only [parts, last, List.cons_lt_cons_iff] at range
  omega

/-- A moment that is not before the year zero can be told without the fraction of its second. -/
theorem IsMoment.truncate {time : Time} (moment : time.IsMoment) (common : 0 ≤ time.date.year) :
    time.truncate.IsMoment := by
  have same : 0 ≤ time.truncate.date.year := common
  -- Without its fraction the moment is no later, and so it is not after the last one either.
  refine ⟨moment.valid, moment.second, (inRange_iff same).mpr ?_⟩
  have range := (inRange_iff common).mp moment.inRange
  simp only [Time.truncate, parts, last, List.cons_lt_cons_iff] at range ⊢
  omega

/-- Digits that fill a width are read as the number that they write. -/
theorem readDigits?_append {digits : List Char} (all : ∀ char ∈ digits, char.isDigit = true)
    (rest : List Char) :
    readDigits? digits.length (digits ++ rest) = some (Nat.ofDigitChars 10 digits 0, rest) := by
  induction digits with
  | nil => rfl
  | cons char digits ih =>
    obtain ⟨first, others⟩ := List.forall_mem_cons.mp all
    -- The first digit counts as often as there are numbers with the other digits.
    have value : Nat.ofDigitChars 10 (char :: digits) 0 =
        (char.toNat - '0'.toNat) * tenTo digits.length + Nat.ofDigitChars 10 digits 0 := by
      rw [Nat.ofDigitChars_cons, Nat.ofDigitChars_eq_ofDigitChars_zero, Nat.mul_zero, Nat.zero_add,
        Nat.mul_comm]
      rfl
    simp [readDigits?, first, ih others, value]

/-- A number below a power of ten is written with so many digits. -/
theorem readDigits?_padded {width value : Nat} (positive : 0 < width) (fits : value < 10 ^ width)
    (rest : List Char) :
    readDigits? width ((padded width value).toList ++ rest) = some (value, rest) := by
  -- The zeros in front fill the digits up to the width without changing the number.
  have short : (Nat.toDigits 10 value).length ≤ width :=
    (Nat.length_toDigits_le_iff (by decide) positive).mpr fits
  have digits : (padded width value).toList =
      List.replicate (width - (Nat.toDigits 10 value).length) '0' ++ Nat.toDigits 10 value := by
    simp [padded, ← String.length_toList]
  have all : ∀ char ∈ (padded width value).toList, char.isDigit = true := by
    intro char known
    rw [digits, List.mem_append] at known
    rcases known with zero | digit
    · rw [List.eq_of_mem_replicate zero]
      rfl
    · exact Nat.isDigit_of_mem_toDigits (by decide) (by decide) digit
  have length : (padded width value).toList.length = width := by
    rw [digits, List.length_append, List.length_replicate]
    omega
  have number : Nat.ofDigitChars 10 (padded width value).toList 0 = value := by
    rw [digits, Nat.ofDigitChars_append]
    simp
  have read := readDigits?_append all rest
  rwa [length, number] at read

/-- The digits of a year do not look like the sign of a year. -/
theorem readYear?_padded {year : Nat} (fits : year < 10 ^ 4) (rest : List Char) :
    readYear? ((padded 4 year).toList ++ rest) = some ((year : Int), rest) := by
  have read := readDigits?_padded (by decide) fits rest
  -- A sign in front would not be a digit, although four digits are read from the front.
  unfold readYear?
  split
  · rename_i sign
    rw [sign] at read
    simp [readDigits?] at read
  · rename_i sign
    rw [sign] at read
    simp [readDigits?] at read
  · simp [read]

/-- A day of the common era reads back from its text. -/
theorem readDate?_padded {date : Date} (valid : date.isValid = true) {year : Nat}
    (same : date.year = year) (fits : year < 10 ^ 4) (rest : List Char) :
    readDate? ((padded 4 year).toList ++ '-' :: ((padded 2 date.month).toList ++
      '-' :: ((padded 2 date.day).toList ++ rest))) = some (date, rest) := by
  obtain ⟨_, high, _, last⟩ := Date.isValid_iff.mp valid
  -- A month and a day have two digits at most, since the day is one of the calendar.
  have bounds := Date.daysInMonth_bounds date.year date.month
  have read : (⟨(year : Int), date.month, date.day⟩ : Date) = date := by
    rw [← same]
  simp only [readDate?, readYear?_padded fits, Option.bind_eq_bind, Option.bind_some,
    readDigits?_padded (show 0 < 2 by decide) (show date.month < 10 ^ 2 by omega),
    readDigits?_padded (show 0 < 2 by decide) (show date.day < 10 ^ 2 by omega), read, valid,
    if_true]

/-- A clock time without a fraction reads back from its text. -/
theorem readClock?_padded {second : Nat} (fits : second < 86400) :
    readClock? ((padded 2 (second / 3600)).toList ++ ':' :: ((padded 2 (second / 60 % 60)).toList ++
      ':' :: ((padded 2 (second % 60)).toList ++ ['Z']))) = some (second, 0, ['Z']) := by
  -- The three parts are in their ranges, and add up to the second of the day again.
  have hour : second / 3600 ≤ 23 := by omega
  have minute : second / 60 % 60 ≤ 59 := by omega
  have rest : second % 60 ≤ 60 := by omega
  have last : min (second % 60) 59 = second % 60 := by omega
  have whole : second / 3600 * 3600 + second / 60 % 60 * 60 + second % 60 = second := by omega
  simp only [readClock?, Option.bind_eq_bind, Option.bind_some,
    readDigits?_padded (show 0 < 2 by decide) (show second / 3600 < 10 ^ 2 by omega),
    readDigits?_padded (show 0 < 2 by decide) (show second / 60 % 60 < 10 ^ 2 by omega),
    readDigits?_padded (show 0 < 2 by decide) (show second % 60 < 10 ^ 2 by omega), readPart?,
    List.head?_cons, hasPart, hour, minute, rest, last, whole, guard, if_true, beq_self_eq_true,
    Bool.not_true]
  rfl

/-- The text of a moment that is not before the year zero, character by character. -/
theorem toList_text {time : Time} (common : 0 ≤ time.date.year) : time.text.toList =
    (padded 4 time.date.year.natAbs).toList ++ '-' :: ((padded 2 time.date.month).toList ++
      '-' :: ((padded 2 time.date.day).toList ++ 'T' :: ((padded 2 (time.second / 3600)).toList ++
        ':' :: ((padded 2 (time.second / 60 % 60)).toList ++
          ':' :: ((padded 2 (time.second % 60)).toList ++ ['Z']))))) := by
  simp [text, Int.not_lt.mpr common]

/-- Local time that does not run ahead is universal time. -/
theorem ofLocal_zero {second : Nat} (date : Date) (fits : second < 86400) (nanosecond : Nat) :
    ofLocal date second nanosecond 0 = ⟨date, second, nanosecond⟩ := by
  -- The clock stays within the day, so the day is not moved.
  have days : ((second : Int) - 0).fdiv 86400 = 0 := by
    rw [Int.fdiv_eq_ediv_of_nonneg _ (by decide)]
    omega
  have clock : (((second : Int) - 0).fmod 86400).toNat = second := by
    rw [Int.fmod_eq_emod_of_nonneg _ (by decide)]
    omega
  simp only [ofLocal, days, clock]
  rfl

/-- A moment that is not before the year zero reads back from its text without the fraction of its
second. -/
theorem parse?_text {time : Time} (moment : time.IsMoment) (common : 0 ≤ time.date.year) :
    parse? time.text = some time.truncate := by
  have year : time.date.year = time.date.year.natAbs := by omega
  have fits : time.date.year.natAbs < 10 ^ 4 := by
    have := moment.year_le common
    omega
  -- Reading checks the range once more, now of the moment without its fraction.
  have told := (moment.truncate common).inRange
  simp only [parse?, toList_text common, readDate?_padded moment.valid year fits,
    readClock?_padded moment.second, readZone?, ofLocal_zero time.date moment.second, guard,
    Option.bind_eq_bind, Option.bind_some, beq_self_eq_true, Bool.true_or, if_true,
    List.isEmpty_nil]
  exact if_pos told

end Time

end VolumeGroups
