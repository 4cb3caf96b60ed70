import ProxyWatch.Number.Power
import ProxyWatch.Text.Decimal

/-!
Spans of time in whole nanoseconds, as long as a count of seconds fits 64 bits.
-/
namespace ProxyWatch

/-- A span of time in nanoseconds. -/
structure Duration where
  nanos : Nat
  deriving DecidableEq, Repr, Inhabited

namespace Duration

/-- Nanoseconds in a second. -/
def perSecond : Nat := 1000000000

/-- The longest span: 2^64 - 1 seconds and 999999999 nanoseconds. -/
def longest : Nat := pow2 64 * perSecond - 1

def zero : Duration := ⟨0⟩

def ofSeconds (n : Nat) : Duration := ⟨n * perSecond⟩

def ofMillis (n : Nat) : Duration := ⟨n * 1000000⟩

/-- Whole seconds. -/
def seconds (d : Duration) : Nat := d.nanos / perSecond

/-- Nanoseconds beyond the whole seconds. -/
def subsecond (d : Duration) : Nat := d.nanos % perSecond

/-- Whole milliseconds. -/
def millis (d : Duration) : Nat := d.nanos / 1000000

/-- Milliseconds, a started one counted in full. -/
def millisUp (d : Duration) : Nat := (d.nanos + 999999) / 1000000

/-- The sum, unless it is longer than the longest span. -/
def add? (a b : Duration) : Option Duration :=
  if a.nanos + b.nanos ≤ longest then some ⟨a.nanos + b.nanos⟩ else none

/-- A whole part and a fraction of `width` digits, without the zeros at its end. -/
def decimalText (whole width fraction : Nat) : String :=
  let shown := ((Decimal.padded width fraction).reverse.dropWhile (· == '0')).reverse
  if fraction = 0 then Decimal.text whole
  else Decimal.text whole ++ "." ++ String.ofList shown

/-- The span in its largest unit that leaves a whole part: s, ms, µs or ns. -/
def text (d : Duration) : String :=
  let ns := d.subsecond
  if d.seconds > 0 then decimalText d.seconds 9 ns ++ "s"
  else if ns ≥ 1000000 then decimalText (ns / 1000000) 6 (ns % 1000000) ++ "ms"
  else if ns ≥ 1000 then decimalText (ns / 1000) 3 (ns % 1000) ++ "µs"
  else Decimal.text ns ++ "ns"

end Duration
end ProxyWatch
