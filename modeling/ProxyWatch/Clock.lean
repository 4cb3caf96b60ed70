import ProxyWatch.Duration
import ProxyWatch.Number.Power

/-!
A clock that counts whole milliseconds, and the instants at which spans of time are over. A span that ends
within a millisecond ends at the next whole one. An instant is the count of milliseconds since the clock began.
-/
namespace ProxyWatch.Clock

/-- Milliseconds in a day. -/
def day : Nat := 86400 * 1000

/-- The clock reaches the end of a span of fewer seconds than this. -/
def reach : Nat := pow2 63 - 1

/-- The end of a span that begins now, or the given instant if the clock does not reach the end. -/
def endOr (farthest now : Nat) (d : Duration) : Nat :=
  if d.seconds < reach then now + d.millisUp else farthest

/-- The end of a span that bounds an attempt; a span out of reach counts as a year. -/
def deadline (now : Nat) (d : Duration) : Nat := endOr (now + 365 * day) now d

/-- The end of a pause; a span out of reach counts as thirty years. -/
def timer (now : Nat) (d : Duration) : Nat := endOr (now + 30 * 365 * day) now d

end ProxyWatch.Clock
