import ProxyWatch.Url.Ipv4

/-!
IPv6 addresses as eight 16-bit pieces. At most one run of zero pieces may be left out, and the last two
pieces may be written as an IPv4 address.
-/
namespace ProxyWatch.Ipv6

/-- The number of one byte of an embedded IPv4 address: decimal, without leading zeros. -/
def byte? (part : List Char) : Option Nat :=
  let n := Decimal.value part
  if part.isEmpty || !part.all Char.isDigit || (part.length > 1 && part.head? == some '0') ||
    n > 255 then none else some n

/-- The two pieces of an embedded IPv4 address. -/
def embedded? (text : List Char) : Option (List Nat) :=
  match (text.splitOn '.').mapM byte? with
  | some [a, b, c, d] => some [a * 256 + b, c * 256 + d]
  | _ => none

/-- The number of one piece: up to four hexadecimal digits. -/
def piece? (part : List Char) : Option Nat :=
  if part.isEmpty || part.length > 4 || !part.all Hex.isDigit then none
  else some (Hex.number part)

/-- Pieces separated by colons; only the last may be an embedded address, and only if `atEnd`. -/
def pieces? (atEnd : Bool) (text : List Char) : Option (List Nat) :=
  if text.isEmpty then some []
  else
    let ps := text.splitOn ':'
    match ps.getLast? with
    | some p =>
      if atEnd && p.contains '.' then do
        return (← ps.dropLast.mapM piece?) ++ (← embedded? p)
      else ps.mapM piece?
    | none => none

/-- Splits at the first two colons in a row. -/
def splitAtGap : List Char → Option (List Char × List Char)
  | ':' :: ':' :: r => some ([], r)
  | c :: r => (splitAtGap r).map fun (a, b) => (c :: a, b)
  | [] => none

/-- The address that a text writes. -/
def parse? (text : List Char) : Option (List Nat) :=
  match splitAtGap text with
  | some (front, back) => do
    let a ← pieces? false front
    let b ← pieces? true back
    if a.length + b.length < 8 then
      return a ++ List.replicate (8 - a.length - b.length) 0 ++ b
    else none
  | none => do
    let ps ← pieces? true text
    if ps.length = 8 then return ps else none

/-- The length of the run of zeros at the front. -/
def zeroRun (ps : List Nat) : Nat := (ps.takeWhile (· == 0)).length

/-- The start and length of the first longest run of zeros. -/
def longestRun (ps : List Nat) : Nat × Nat :=
  (List.range ps.length).foldl
    (fun best i => if zeroRun (ps.drop i) > best.2 then (i, zeroRun (ps.drop i)) else best) (0, 0)

/-- Pieces in lower-case hexadecimal form, separated by colons. -/
def join (ps : List Nat) : List Char := [':'].intercalate (ps.map Hex.digits)

/-- The address with its longest run of at least two zero pieces left out. -/
def chars (ps : List Nat) : List Char :=
  let (start, length) := longestRun ps
  if length ≥ 2 then
    join (ps.take start) ++ ':' :: ':' :: join (ps.drop (start + length))
  else join ps

end ProxyWatch.Ipv6
