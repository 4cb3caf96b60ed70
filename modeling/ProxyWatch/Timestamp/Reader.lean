import ProxyWatch.Number.Power
import ProxyWatch.Text.Blank
import ProxyWatch.Timestamp

/-!
Reading RFC 3339 times. The reader is lenient: numbers may have fewer digits, white space may stand around
the separators of the date and of the time and before the offset, a space may stand for the T, and the
offset may be the word UTC or lack its colon.
-/
namespace ProxyWatch.Timestamp

open Blank

/-- Up to `most` digits, at least one, read as a number. -/
def number? (most : Nat) (cs : List Char) : Option (Nat × List Char) :=
  let ds := (cs.take most).takeWhile Char.isDigit
  if ds.isEmpty then none else some (Decimal.value ds, cs.drop ds.length)

/-- A number of at most two digits after optional white space. -/
def field? (cs : List Char) : Option (Nat × List Char) := number? 2 (trimStart cs)

/-- A year: four digits at most, or any number of them after a sign. -/
def year? (cs : List Char) : Option (Int × List Char) :=
  match trimStart cs with
  | '-' :: r => (number? r.length r).map fun (n, r) => (-(n : Int), r)
  | '+' :: r => (number? r.length r).map fun (n, r) => ((n : Int), r)
  | r => (number? 4 r).map fun (n, r) => ((n : Int), r)

/-- The given character after optional white space. -/
def mark? (c : Char) (cs : List Char) : Option (List Char) :=
  match trimStart cs with
  | d :: r => if d = c then some r else none
  | [] => none

/-- A fraction after a point: nine digits count, further ones are skipped. Without a point it is zero. -/
def fraction? (cs : List Char) : Option (Nat × List Char) :=
  match cs with
  | '.' :: r =>
    (number? 9 r).map fun (n, rest) =>
      let width := ((r.take 9).takeWhile Char.isDigit).length
      (n * pow10 (9 - width), rest.dropWhile Char.isDigit)
  | _ => some (0, cs)

/-- Two digits. -/
def twoDigits? : List Char → Option (Nat × List Char)
  | a :: b :: r =>
    if a.isDigit && b.isDigit then some (Decimal.value [a, b], r) else none
  | _ => none

/-- The offset from UTC in minutes: Z, or a sign, two digits of hours and two of minutes below 60. -/
def offset? (cs : List Char) : Option (Int × List Char) :=
  match cs with
  | 'Z' :: r => some (0, r)
  | 'z' :: r => some (0, r)
  | sign :: r =>
    if sign = '+' || sign = '-' || sign = '−' then do
      let (hours, r) ← twoDigits? r
      let (minutes, r) ← twoDigits? (r.dropWhile fun c => c == ':' || isBlank c)
      if minutes < 60 then
        let total : Int := hours * 60 + minutes
        some (if sign = '+' then total else -total, r)
      else none
    else none
  | [] => none

/-- The word UTC in any case, or an offset. -/
def zone? (cs : List Char) : Option (Int × List Char) :=
  if (cs.take 3).map Char.toUpper = "UTC".toList then some (0, cs.drop 3) else offset? cs

/-- The time that a text in RFC 3339 form denotes, in UTC. -/
def parse? (cs : List Char) : Option Timestamp := do
  let (year, cs) ← year? cs
  let (month, cs) ← field? (← mark? '-' cs)
  let (day, cs) ← field? (← mark? '-' cs)
  let cs ← match cs with
    | c :: r => if c = 'T' || c = 't' || c = ' ' then some r else none
    | [] => none
  let (hour, cs) ← field? cs
  let (minute, cs) ← field? (← mark? ':' cs)
  let (second, cs) ← field? (← mark? ':' cs)
  let (nanos, cs) ← fraction? cs
  let (offset, rest) ← zone? (trimStart cs)
  let time : Timestamp := ⟨year, month, day, hour, minute, second, nanos⟩
  if (trimStart rest).isEmpty && decide (offset.natAbs < 1440) && decide time.IsValid then
    time.minusMinutes offset
  else none

end ProxyWatch.Timestamp
