import ProxyWatch.Text.Decimal

/-!
Points in time: a civil date and a time of day in UTC, down to nanoseconds. Second 60 is a leap second.
-/
namespace ProxyWatch

/-- A civil date and time of day. -/
structure Timestamp where
  year : Int
  month : Nat
  day : Nat
  hour : Nat
  minute : Nat
  second : Nat
  nanos : Nat
  deriving DecidableEq, Repr, Inhabited

namespace Timestamp

/-- The first year of the calendar in use. -/
def firstYear : Int := -262143

/-- The last year of the calendar in use. -/
def lastYear : Int := 262142

def isLeapYear (year : Int) : Bool :=
  year % 4 == 0 && (year % 100 != 0 || year % 400 == 0)

def daysInMonth (year : Int) (month : Nat) : Nat :=
  if month = 2 then (if isLeapYear year then 29 else 28)
  else if month = 4 || month = 6 || month = 9 || month = 11 then 30 else 31

/-- The fields name a day of the calendar and a time of that day. -/
def IsValid (t : Timestamp) : Prop :=
  firstYear ≤ t.year ∧ t.year ≤ lastYear ∧ 1 ≤ t.month ∧ t.month ≤ 12 ∧ 1 ≤ t.day ∧
    t.day ≤ daysInMonth t.year t.month ∧ t.hour < 24 ∧ t.minute < 60 ∧ t.second ≤ 60 ∧
    t.nanos < 1000000000

instance (t : Timestamp) : Decidable t.IsValid := by unfold IsValid; infer_instance

/-- The date of the day before, at the same time of day. -/
def dayBefore (t : Timestamp) : Timestamp :=
  if t.day > 1 then { t with day := t.day - 1 }
  else if t.month > 1 then
    { t with month := t.month - 1, day := daysInMonth t.year (t.month - 1) }
  else { t with year := t.year - 1, month := 12, day := 31 }

/-- The date of the day after, at the same time of day. -/
def dayAfter (t : Timestamp) : Timestamp :=
  if t.day < daysInMonth t.year t.month then { t with day := t.day + 1 }
  else if t.month < 12 then { t with month := t.month + 1, day := 1 }
  else { t with year := t.year + 1, month := 1, day := 1 }

/-- The time `minutes` earlier, for less than a day; none beyond the calendar's ends. -/
def minusMinutes (t : Timestamp) (minutes : Int) : Option Timestamp :=
  let total : Int := t.hour * 60 + t.minute - minutes
  let shifted := if total < 0 then t.dayBefore else if total ≥ 1440 then t.dayAfter else t
  let ofDay := (total % 1440).toNat
  let moved := { shifted with hour := ofDay / 60, minute := ofDay % 60 }
  if moved.IsValid then some moved else none

/-- The year with four digits, or with a sign when it needs more or is negative. -/
def yearText (year : Int) : List Char :=
  if 0 ≤ year ∧ year ≤ 9999 then Decimal.padded 4 year.natAbs
  else (if year < 0 then '-' else '+') :: Decimal.padded 4 year.natAbs

/-- The fraction of a second in groups of three digits, as many as it needs. -/
def fractionText (nanos : Nat) : List Char :=
  if nanos = 0 then []
  else if nanos % 1000000 = 0 then '.' :: Decimal.padded 3 (nanos / 1000000)
  else if nanos % 1000 = 0 then '.' :: Decimal.padded 6 (nanos / 1000)
  else '.' :: Decimal.padded 9 nanos

/-- The time in RFC 3339 form, in UTC. -/
def chars (t : Timestamp) : List Char :=
  yearText t.year ++ '-' :: Decimal.padded 2 t.month ++ '-' :: Decimal.padded 2 t.day ++
    'T' :: Decimal.padded 2 t.hour ++ ':' :: Decimal.padded 2 t.minute ++
    ':' :: Decimal.padded 2 t.second ++ fractionText t.nanos ++ ['Z']

/-- The time in RFC 3339 form, in UTC. -/
def text (t : Timestamp) : String := String.ofList t.chars

end Timestamp
end ProxyWatch
