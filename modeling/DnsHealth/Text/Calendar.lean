/-!
# Calendar

Dates of the proleptic Gregorian calendar from a count of seconds since 1970-01-01 00:00:00 UTC, and
the two ways in which they are written here: as fourteen digits, and as an RFC 3339 time.

Years are counted from 1 March, so that a leap day is the last day of its year; then years repeat in
blocks of 400 years, 100 years, 4 years and 1 year.
-/

namespace DnsHealth.Text

/-- A moment in UTC, to the second. -/
structure UtcTime where
  year : Nat
  month : Nat
  day : Nat
  hour : Nat
  minute : Nat
  second : Nat
  deriving DecidableEq, Repr

namespace UtcTime

/-- The days from 1 March of the year 0 to 1 January 1970. -/
def epochDays : Nat := 719468

/-- The date `days` days after 1 March of the year 0, as year, month and day. -/
def civil (days : Nat) : Nat × Nat × Nat :=
  let era := days / 146097
  let dayOfEra := days % 146097
  let yearOfEra := (dayOfEra - dayOfEra / 1460 + dayOfEra / 36524 - dayOfEra / 146096) / 365
  let dayOfYear := dayOfEra - (365 * yearOfEra + yearOfEra / 4 - yearOfEra / 100)
  let shifted := (5 * dayOfYear + 2) / 153
  let day := dayOfYear - (153 * shifted + 2) / 5 + 1
  let month := if shifted < 10 then shifted + 3 else shifted - 9
  let year := yearOfEra + era * 400 + if month ≤ 2 then 1 else 0
  (year, month, day)

/-- The moment `seconds` seconds after the start of 1970. -/
def ofUnixSeconds (seconds : Nat) : UtcTime :=
  let (year, month, day) := civil (seconds / 86400 + epochDays)
  let rest := seconds % 86400
  { year, month, day, hour := rest / 3600, minute := rest / 60 % 60, second := rest % 60 }

/-- A number with at least `width` digits. -/
def padded (width n : Nat) : String :=
  let digits := toString n
  String.ofList (List.replicate (width - digits.length) '0') ++ digits

/-- Year, month, day, hour, minute and second without separators. -/
def digits (time : UtcTime) : String :=
  padded 4 time.year ++ padded 2 time.month ++ padded 2 time.day ++ padded 2 time.hour ++
    padded 2 time.minute ++ padded 2 time.second

/-- The RFC 3339 form. -/
def rfc3339 (time : UtcTime) : String :=
  padded 4 time.year ++ "-" ++ padded 2 time.month ++ "-" ++ padded 2 time.day ++ "T" ++
    padded 2 time.hour ++ ":" ++ padded 2 time.minute ++ ":" ++ padded 2 time.second ++ "Z"

end UtcTime

end DnsHealth.Text
