import VolumeGroups.Text.Decimal

/-! Moments of the calendar in universal time, read from and written as dated text. -/

namespace VolumeGroups

/-- A day of the calendar. -/
structure Date where
  year : Int
  month : Nat
  day : Nat
  deriving DecidableEq, Inhabited

namespace Date

/-- Every fourth year is longer by a day, of the full centuries only every fourth one. -/
def isLeap (year : Int) : Bool :=
  year % 4 == 0 && (year % 100 != 0 || year % 400 == 0)

/-- The number of days of a month. -/
def daysInMonth (year : Int) (month : Nat) : Nat :=
  if month = 2 then if isLeap year then 29 else 28
  else if month = 4 ∨ month = 6 ∨ month = 9 ∨ month = 11 then 30
  else 31

/-- The day is one that the calendar has. -/
def isValid (date : Date) : Bool :=
  1 ≤ date.month && date.month ≤ 12 && 1 ≤ date.day
    && date.day ≤ daysInMonth date.year date.month

/-- The day after. -/
def next (date : Date) : Date :=
  if date.day < daysInMonth date.year date.month then { date with day := date.day + 1 }
  else if date.month < 12 then { date with month := date.month + 1, day := 1 }
  else ⟨date.year + 1, 1, 1⟩

/-- The day before. -/
def previous (date : Date) : Date :=
  if 1 < date.day then { date with day := date.day - 1 }
  else if 1 < date.month then
    { date with month := date.month - 1, day := daysInMonth date.year (date.month - 1) }
  else ⟨date.year - 1, 12, 31⟩

/-- The day some number of days later, or earlier if the number is negative. -/
def shift (date : Date) : Int → Date
  | .ofNat days => days.repeat next date
  | .negSucc days => (days + 1).repeat previous date

end Date

/-- A moment in universal time. -/
structure Time where
  date : Date
  /-- Seconds since the day began. -/
  second : Nat
  nanosecond : Nat
  deriving DecidableEq, Inhabited

namespace Time

/-- The moment at a local time of a day, where local time runs ahead by a number of seconds. -/
def ofLocal (date : Date) (second nanosecond : Nat) (ahead : Int) : Time :=
  -- Flooring division moves to the neighbouring days when the clock crosses midnight.
  let total : Int := second - ahead
  ⟨date.shift (total.fdiv 86400), (total.fmod 86400).toNat, nanosecond⟩

/-- The parts of a moment, the weightiest first. -/
def parts (time : Time) : List Int :=
  [time.date.year, time.date.month, time.date.day, time.second, time.nanosecond]

/-- The first moment that can be told. -/
def first : Time := ⟨⟨-9999, 1, 2⟩, 7199, 0⟩

/-- The last moment that can be told. -/
def last : Time := ⟨⟨9999, 12, 30⟩, 79200, 999999999⟩

/-- The moment lies between the first and the last that can be told. -/
def inRange (time : Time) : Bool :=
  !decide (time.parts < first.parts) && !decide (last.parts < time.parts)

/-- The moment without its fraction of a second. -/
def truncate (time : Time) : Time := { time with nanosecond := 0 }

/-- The number that a given count of decimal digits writes at the front of a text, with the rest. -/
def readDigits? : Nat → List Char → Option (Nat × List Char)
  | 0, rest => some (0, rest)
  | count + 1, char :: rest =>
    -- Digits are counted from the front, so each stands at the place of those still to come.
    if char.isDigit then
      (readDigits? count rest).map fun (value, rest) =>
        ((char.toNat - '0'.toNat) * tenTo count + value, rest)
    else none
  | _ + 1, [] => none

/-- The year at the front of a text: four digits, or a sign and six. -/
def readYear? (text : List Char) : Option (Int × List Char) :=
  match text with
  | '+' :: rest => (readDigits? 6 rest).bind fun (year, rest) =>
    if year ≤ 9999 then some ((year : Int), rest) else none
  | '-' :: rest => (readDigits? 6 rest).bind fun (year, rest) =>
    -- There is one year zero, so it takes no minus sign.
    if 0 < year ∧ year ≤ 9999 then some (-(year : Int), rest) else none
  | _ => (readDigits? 4 text).map fun (year, rest) => ((year : Int), rest)

/-- The day at the front of a text, with hyphens between its parts or without any. -/
def readDate? (text : List Char) : Option (Date × List Char) := do
  let (year, rest) ← readYear? text
  match rest with
  -- A hyphen after the year asks for one after the month too.
  | '-' :: rest =>
    let (month, rest) ← readDigits? 2 rest
    match rest with
    | '-' :: rest =>
      let (day, rest) ← readDigits? 2 rest
      let date : Date := ⟨year, month, day⟩
      if date.isValid then some (date, rest) else none
    | _ => none
  -- The short form has no hyphen at all.
  | _ =>
    let (month, rest) ← readDigits? 2 rest
    let (day, rest) ← readDigits? 2 rest
    let date : Date := ⟨year, month, day⟩
    if date.isValid then some (date, rest) else none

/-- The fraction of a second at the front of a text, in nanoseconds, zero if none is written. -/
def readFraction? (text : List Char) : Option (Nat × List Char) :=
  match text with
  | mark :: rest =>
    if mark == '.' || mark == ',' then
      -- More than nine digits would be finer than a moment is kept.
      let digits := rest.takeWhile Char.isDigit
      if digits.isEmpty || 9 < digits.length then none
      else some (digitsValue digits * tenTo (9 - digits.length), rest.dropWhile Char.isDigit)
    else some (0, text)
  | [] => some (0, text)

/-- The two digits of the next part of a clock time, after a colon exactly if the parts have
colons. -/
def readPart? (colons : Bool) (text : List Char) : Option (Nat × List Char) :=
  match colons, text with
  | true, ':' :: rest => readDigits? 2 rest
  | true, _ => none
  | false, _ => readDigits? 2 text

/-- Another part of a clock time follows. -/
def hasPart (colons : Bool) (text : List Char) : Bool :=
  match text with
  | char :: _ => if colons then char == ':' else char.isDigit
  | [] => false

/-- The clock time at the front of a text in seconds and nanoseconds, where minutes and seconds
may be left out. -/
def readClock? (text : List Char) : Option (Nat × Nat × List Char) := do
  let (hour, rest) ← readDigits? 2 text
  guard (hour ≤ 23)
  let colons := rest.head? == some ':'
  if !hasPart colons rest then return (hour * 3600, 0, rest)
  let (minute, rest) ← readPart? colons rest
  guard (minute ≤ 59)
  if !hasPart colons rest then return (hour * 3600 + minute * 60, 0, rest)
  let (second, rest) ← readPart? colons rest
  guard (second ≤ 60)
  -- A leap second has no place of its own and counts as the one before it.
  let second := min second 59
  let (nanosecond, rest) ← readFraction? rest
  return (hour * 3600 + minute * 60 + second, nanosecond, rest)

/-- The seconds by which local time runs ahead, from the zone at the front of a text. -/
def readZone? (text : List Char) : Option (Int × List Char) :=
  match text with
  | mark :: rest =>
    if mark == 'Z' || mark == 'z' then some (0, rest)
    else if mark == '+' || mark == '-' then do
      let (hour, rest) ← readDigits? 2 rest
      -- The zone is read more widely than any clock runs, up to a day and an hour.
      guard (hour ≤ 25)
      let colons := rest.head? == some ':'
      let (minute, second, rest) ←
        -- Minutes and seconds may be missing, and colons stand before both of them or before none.
        if !hasPart colons rest then pure (0, 0, rest) else do
          let (minute, rest) ← readPart? colons rest
          guard (minute ≤ 59)
          if !hasPart colons rest then pure (minute, 0, rest) else do
            let (second, rest) ← readPart? colons rest
            guard (second ≤ 59)
            pure (minute, second, rest)
      let ahead : Int := hour * 3600 + minute * 60 + second
      return (if mark == '-' then -ahead else ahead, rest)
    else none
  | [] => none

/-- The moment that a text writes as a day, a clock time and a zone. -/
def parse? (text : String) : Option Time := do
  let (date, rest) ← readDate? text.toList
  match rest with
  | mark :: rest =>
    guard (mark == 'T' || mark == 't' || mark == ' ')
    let (second, nanosecond, rest) ← readClock? rest
    let (ahead, rest) ← readZone? rest
    guard rest.isEmpty
    -- The moment is moved to universal time before its range is checked.
    let time := ofLocal date second nanosecond ahead
    if time.inRange then some time else none
  | [] => none

/-- A number in decimal, filled up with zeros to a width. -/
def padded (width value : Nat) : String :=
  let digits := toString value
  String.ofList (List.replicate (width - digits.length) '0') ++ digits

/-- A moment as text, to the second and in universal time. -/
def text (time : Time) : String :=
  let sign := if time.date.year < 0 then "-" else ""
  sign ++ padded 4 time.date.year.natAbs ++ "-" ++ padded 2 time.date.month ++ "-"
    ++ padded 2 time.date.day ++ "T" ++ padded 2 (time.second / 3600) ++ ":"
    ++ padded 2 (time.second / 60 % 60) ++ ":" ++ padded 2 (time.second % 60) ++ "Z"

end Time

end VolumeGroups
