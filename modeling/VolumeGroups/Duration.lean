import VolumeGroups.Text.Decimal

/-! Lengths of time to the nanosecond, and the two ways of writing them. -/

namespace VolumeGroups

/-- A length of time in nanoseconds. -/
structure Duration where
  nanoseconds : Nat
  deriving DecidableEq, Inhabited

namespace Duration

/-- A length of whole seconds. -/
def ofSeconds (seconds : Nat) : Duration := ⟨seconds * tenTo 9⟩

/-- A length of whole milliseconds. -/
def ofMilliseconds (milliseconds : Nat) : Duration := ⟨milliseconds * tenTo 6⟩

/-- The whole milliseconds of a length. -/
def milliseconds (duration : Duration) : Nat := duration.nanoseconds / tenTo 6

/-- The digits of a fraction with a number of places, without its trailing zeros. -/
def fractionDigits (places value : Nat) : List Char :=
  let digits := Nat.toDigits 10 value
  let filled := List.replicate (places - digits.length) '0' ++ digits
  (filled.reverse.dropWhile (· == '0')).reverse

/-- A whole number of units and the fraction beyond it, without trailing zeros. -/
def inUnits (value places : Nat) (unit : String) : String :=
  let fraction := value % tenTo places
  let whole := toString (value / tenTo places)
  if fraction = 0 then whole ++ unit
  else whole ++ "." ++ String.ofList (fractionDigits places fraction) ++ unit

/-- A length in the largest unit of which it holds at least one. -/
def text (duration : Duration) : String :=
  let count := duration.nanoseconds
  -- Fractions keep the finest digits, so the unit only moves the point.
  if tenTo 9 ≤ count then inUnits count 9 "s"
  else if tenTo 6 ≤ count then inUnits count 6 "ms"
  else if tenTo 3 ≤ count then inUnits count 3 "µs"
  else inUnits count 0 "ns"

/-- A length in the finest unit that needs no more than eight digits, cut to whole units. -/
def headerText (duration : Duration) : String :=
  let count := duration.nanoseconds
  let units := [(1, "n"), (tenTo 3, "u"), (tenTo 6, "m"), (tenTo 9, "S"), (60 * tenTo 9, "M")]
  -- The header takes no more than eight digits, so longer lengths lose their finest part.
  match units.find? fun unit => count / unit.1 ≤ 99999999 with
  | some (size, letter) => toString (count / size) ++ letter
  | none => toString (count / (3600 * tenTo 9)) ++ "H"

end Duration

end VolumeGroups
