import ProxyWatch.Number.Power
import ProxyWatch.Number.Shortest
import ProxyWatch.Text.Hex
import ProxyWatch.Timestamp
import ProxyWatch.Toml

/-!
Unquoted values of TOML documents: booleans, integers in four bases, doubles, dates and times.
-/
namespace ProxyWatch.Toml.Scalar

/-- A character of an unquoted value. -/
def isAtomChar (c : Char) : Bool :=
  c.isAlphanum || c == '+' || c == '-' || c == '_' || c == '.' || c == ':'

/-- The digits of a number; single underscores may stand between digits. -/
def ungroup (isDigit : Char → Bool) : List Char → Option (List Char)
  | [] => none
  | [c] => if isDigit c then some [c] else none
  | c :: '_' :: r => if isDigit c then (ungroup isDigit r).map (c :: ·) else none
  | c :: r => if isDigit c then (ungroup isDigit r).map (c :: ·) else none

/-- Digits without a leading zero, unless zero is the only one. -/
def decimal? (cs : List Char) : Option (List Char) :=
  match ungroup Char.isDigit cs with
  | some ('0' :: _ :: _) => none
  | ds => ds

/-- The sign in front of a number, true for a minus, and the rest. -/
def splitSign : List Char → Bool × List Char
  | '-' :: r => (true, r)
  | '+' :: r => (false, r)
  | r => (false, r)

/-- Digits in a base given by the length of its marker's alphabet. -/
def inBase (base : Nat) (isDigit : Char → Bool) (cs : List Char) : Option Int :=
  (ungroup isDigit cs).map fun ds =>
    ((ds.foldl (fun n c => n * base + (Hex.value? c).getD 0) 0 : Nat) : Int)

/-- The integers that a document may hold. -/
def inRange (i : Int) : Bool := -(pow2 127 : Int) ≤ i && i < pow2 128

def integer? (cs : List Char) : Option Int :=
  match cs with
  | '0' :: 'x' :: r => inBase 16 Hex.isDigit r
  | '0' :: 'o' :: r => inBase 8 (fun c => '0' ≤ c && c ≤ '7') r
  | '0' :: 'b' :: r => inBase 2 (fun c => c == '0' || c == '1') r
  | cs =>
    let (negative, r) := splitSign cs
    (decimal? r).map fun ds =>
      let n : Int := Decimal.value ds
      if negative then -n else n

/-- An exponent: a sign and digits, with leading zeros allowed. -/
def exponent? (cs : List Char) : Option Int :=
  let (negative, r) := splitSign cs
  (ungroup Char.isDigit r).map fun ds =>
    let n : Int := Decimal.value ds
    if negative then -n else n

/-- A decimal with a fraction, an exponent or both; none if it is too large for a double. -/
def decimalFloat? (cs : List Char) : Option Binary64 := do
  let (negative, r) := splitSign cs
  let isMark (c : Char) : Bool := c == 'e' || c == 'E'
  let mantissa := r.takeWhile (!isMark ·)
  let e ← match r.dropWhile (!isMark ·) with
    | _ :: digits => exponent? digits
    | [] => if mantissa.contains '.' then some 0 else none
  let (whole, fraction) ← match mantissa.splitOn '.' with
    | [w] => (decimal? w).map fun w => (w, [])
    | [w, f] => (decimal? w).bind fun w => (ungroup Char.isDigit f).map fun f => (w, f)
    | _ => none
  let x := Binary64.ofDecimal negative (Decimal.value (whole ++ fraction)) (e - fraction.length)
  if x.isFinite then some x else none

def float? (cs : List Char) : Option Binary64 :=
  let (negative, r) := splitSign cs
  if r = "inf".toList then some (.infinite negative)
  else if r = "nan".toList then some .nan
  else decimalFloat? cs

/-- A number of exactly `width` digits, below `limit`, and the rest. -/
def fixed? (width limit : Nat) (cs : List Char) : Option (Nat × List Char) :=
  let ds := cs.take width
  if ds.length = width && ds.all Char.isDigit && Decimal.value ds < limit then
    some (Decimal.value ds, cs.drop width)
  else none

/-- The rest behind a fixed character. -/
def behind? (c : Char) : List Char → Option (List Char)
  | d :: r => if c = d then some r else none
  | [] => none

/-- The rest behind a date of the calendar. -/
def date? (cs : List Char) : Option (List Char) := do
  let (year, r) ← fixed? 4 10000 cs
  let (month, r) ← fixed? 2 13 (← behind? '-' r)
  let (day, r) ← fixed? 2 32 (← behind? '-' r)
  if 1 ≤ month && 1 ≤ day && day ≤ Timestamp.daysInMonth year month then some r else none

/-- The rest behind a fraction of a second, if there is one. -/
def fraction? (cs : List Char) : Option (List Char) :=
  match cs with
  | '.' :: r => if (Decimal.run r).1.isEmpty then none else some (Decimal.run r).2
  | r => some r

/-- The rest behind a time of day. Seconds may be left out. -/
def time? (cs : List Char) : Option (List Char) := do
  let (_, r) ← fixed? 2 24 cs
  let (_, r) ← fixed? 2 60 (← behind? ':' r)
  match r with
  | ':' :: r =>
    let (_, r) ← fixed? 2 61 r
    fraction? r
  | r => return r

/-- An offset from UTC, and nothing behind it. -/
def isOffset : List Char → Bool
  | [] => true
  | [c] => c == 'Z' || c == 'z'
  | c :: r =>
    (c == '+' || c == '-') &&
      match (do
        let (_, r) ← fixed? 2 24 r
        let (_, r) ← fixed? 2 60 (← behind? ':' r)
        return r : Option (List Char)) with
      | some [] => true
      | _ => false

/-- A date, a time, or a date and a time with or without an offset. -/
def isMoment (cs : List Char) : Bool :=
  match date? cs with
  | some [] => true
  | some (sep :: r) =>
    (sep == 'T' || sep == 't' || sep == ' ') &&
      match time? r with
      | some rest => isOffset rest
      | none => false
  | none => time? cs == some []

/-- The value that an unquoted text writes. -/
def ofAtom? (cs : List Char) : Option Toml :=
  if cs = "true".toList then some (.bool true)
  else if cs = "false".toList then some (.bool false)
  else match integer? cs with
    | some i => if inRange i then some (.int i) else none
    | none =>
      match float? cs with
      | some x => some (.float x)
      | none => if isMoment cs then some (.moment (String.ofList cs)) else none

/-- An unquoted value. Between a date and a time there may be one space. -/
def read? (cs : List Char) : Option (Toml × List Char) :=
  let (atom, rest) := cs.span isAtomChar
  match date? atom, rest with
  | some [], ' ' :: c :: r =>
    if c.isDigit then
      let (more, rest) := (c :: r).span isAtomChar
      (ofAtom? (atom ++ ' ' :: more)).map fun v => (v, rest)
    else (ofAtom? atom).map fun v => (v, rest)
  | _, _ => (ofAtom? atom).map fun v => (v, rest)

end ProxyWatch.Toml.Scalar
