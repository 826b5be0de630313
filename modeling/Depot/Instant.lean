import Depot.Number.Exact
/-!
# Instants

A point in time is a whole number of milliseconds since the start of 1970, and
not every such number is one. The text of an instant names the day of the
proleptic Gregorian calendar and the time of day; years outside 0 to 9999 have a
sign and six digits.
-/
namespace Depot

/-- A point in time, in milliseconds since the start of 1970. -/
abbrev Instant := Int

namespace Instant

/-- The farthest an instant may lie from the start of 1970. -/
def limit : Int := 8640000000000000

/-- The instant of a number of milliseconds, unless it is out of range. -/
def ofMillis? (ms : Int) : Option Instant :=
  if ms.natAbs ≤ limit.natAbs then some ms else none

/-- The instant of a number of milliseconds, whose fraction does not count. -/
def ofNumber? (ms : Float) : Option Instant := (Number.truncate? ms).bind ofMillis?

/-- Whole seconds since the start of 1970, toward the past. -/
def unixSeconds (t : Instant) : Int := Int.fdiv t 1000

/-- A day of the calendar. -/
structure Date where
  year : Int
  month : Nat
  day : Nat
  deriving DecidableEq, Repr

/--
The date `days` after the first day of 1970. Years are counted from March, so
that a leap day ends its year, and grouped in eras of 400 years.
-/
def dateOfDays (days : Int) : Date :=
  let shifted := days + 719468
  let era := Int.fdiv shifted 146097
  let dayOfEra := (shifted - era * 146097).toNat
  let yearOfEra := (dayOfEra - dayOfEra / 1460 + dayOfEra / 36524 - dayOfEra / 146096) / 365
  let dayOfYear := dayOfEra - (365 * yearOfEra + yearOfEra / 4 - yearOfEra / 100)
  let march := (5 * dayOfYear + 2) / 153
  let day := dayOfYear - (153 * march + 2) / 5 + 1
  let month := if march < 10 then march + 3 else march - 9
  let year := yearOfEra + era * 400 + (if month ≤ 2 then 1 else 0)
  ⟨year, month, day⟩

/-- A natural written with at least `width` digits. -/
private def padded (width n : Nat) : String :=
  let digits := Nat.toDigits 10 n
  String.ofList (List.replicate (width - digits.length) '0' ++ digits)

private def yearText (year : Int) : String :=
  if 0 ≤ year ∧ year ≤ 9999 then padded 4 year.toNat
  else (if year < 0 then "-" else "+") ++ padded 6 year.natAbs

/-- The text of an instant, such as `2024-01-01T00:00:00.123Z`. -/
def text (t : Instant) : String :=
  let days := Int.fdiv t 86400000
  let ms := (t - days * 86400000).toNat
  let date := dateOfDays days
  yearText date.year ++ "-" ++ padded 2 date.month ++ "-" ++ padded 2 date.day ++ "T"
    ++ padded 2 (ms / 3600000) ++ ":" ++ padded 2 (ms / 60000 % 60) ++ ":"
    ++ padded 2 (ms / 1000 % 60) ++ "." ++ padded 3 (ms % 1000) ++ "Z"

end Instant
end Depot
