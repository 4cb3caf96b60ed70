import ProxyWatch.Timestamp

/-!
Points in time from a count of seconds since the beginning of 1970.
-/
namespace ProxyWatch.Timestamp

/-- Days from the first of March of year 0 to the first of January 1970. -/
def epochDay : Int := 719468

/-- Days in 400 years. -/
def daysPerEra : Int := 146097

/-- The year, month and day of a number of days since 1970. The year is taken to begin in March, so that the
leap day is its last one. -/
def civilOfDays (days : Int) : Int × Nat × Nat :=
  let z := days + epochDay
  let ofEra := (z % daysPerEra).toNat
  let yearOfEra := (ofEra - ofEra / 1460 + ofEra / 36524 - ofEra / 146096) / 365
  let ofYear := ofEra - (365 * yearOfEra + yearOfEra / 4 - yearOfEra / 100)
  let fromMarch := (5 * ofYear + 2) / 153
  let day := ofYear - (153 * fromMarch + 2) / 5 + 1
  let month := if fromMarch < 10 then fromMarch + 3 else fromMarch - 9
  let year := (yearOfEra : Int) + z / daysPerEra * 400
  (if month ≤ 2 then year + 1 else year, month, day)

/-- The time a number of seconds and nanoseconds after the beginning of 1970. -/
def ofUnix (seconds : Int) (nanos : Nat) : Timestamp :=
  let (year, month, day) := civilOfDays (seconds / 86400)
  let ofDay := (seconds % 86400).toNat
  { year, month, day, hour := ofDay / 3600, minute := ofDay / 60 % 60, second := ofDay % 60, nanos }

end ProxyWatch.Timestamp
