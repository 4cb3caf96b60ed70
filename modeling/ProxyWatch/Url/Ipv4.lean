import ProxyWatch.Number.Power
import ProxyWatch.Text.Decimal
import ProxyWatch.Text.Hex

/-!
IPv4 addresses in urls: one to four numbers, each decimal, octal after `0` or hexadecimal after `0x`,
the last of which fills the bytes that remain.
-/
namespace ProxyWatch.Ipv4

/-- The number that a run of octal digits writes. -/
def octal (cs : List Char) : Nat := cs.foldl (fun n c => n * 8 + Decimal.digitValue c) 0

def isOctalDigit (c : Char) : Bool := '0' ≤ c && c ≤ '7'

/-- The number that a part writes. -/
def number? (part : List Char) : Option Nat :=
  match part with
  | [] => none
  | '0' :: 'x' :: ds => if ds.all Hex.isDigit then some (Hex.number ds) else none
  | '0' :: 'X' :: ds => if ds.all Hex.isDigit then some (Hex.number ds) else none
  | '0' :: d :: ds => if (d :: ds).all isOctalDigit then some (octal (d :: ds)) else none
  | ds => if ds.all Char.isDigit then some (Decimal.value ds) else none

/-- The parts between points; a point at the end starts none. -/
def parts (host : List Char) : List (List Char) :=
  let ps := host.splitOn '.'
  if ps.getLast? = some [] then ps.dropLast else ps

/-- A host whose last part is a number, or at least all digits, can only be an address. -/
def looksNumeric (host : List Char) : Bool :=
  match (parts host).getLast? with
  | some p => (!p.isEmpty && p.all Char.isDigit) || (number? p).isSome
  | none => false

/-- The address that a host writes; none if it is malformed or too large. -/
def parse? (host : List Char) : Option Nat := do
  let ps := parts host
  if ps.length > 4 then none
  else
    let numbers ← ps.mapM number?
    let last ← numbers.getLast?
    let leading := numbers.dropLast
    if last < pow2 (8 * (4 - leading.length)) ∧ leading.all (· < 256) then
      some (leading.foldl (fun n b => n * 256 + b) 0 * pow2 (8 * (4 - leading.length)) + last)
    else none

/-- The address in dotted decimal form. -/
def chars (address : Nat) : List Char :=
  Decimal.digits (address / pow2 24 % 256) ++ '.' :: Decimal.digits (address / pow2 16 % 256) ++
    '.' :: Decimal.digits (address / pow2 8 % 256) ++ '.' :: Decimal.digits (address % 256)

end ProxyWatch.Ipv4
