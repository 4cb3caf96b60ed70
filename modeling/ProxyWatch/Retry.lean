import ProxyWatch.Duration
import ProxyWatch.Number.Binary64
import ProxyWatch.Number.Power

/-!
The delays between attempts: `first · factor ^ (retry - 1)`, computed in doubles and capped.
-/
namespace ProxyWatch

/-- The span in seconds, as a double. -/
def Duration.toSeconds (d : Duration) : Binary64 :=
  (Binary64.ofNat d.seconds).add ((Binary64.ofNat d.subsecond).divNat Duration.perSecond)

/-- The span of a count of seconds, to the nearest nanosecond, a half going to the even one. None if
the count is negative, not a number, or 2^64 or more. -/
def Duration.ofSecondsDouble? (x : Binary64) : Option Duration :=
  if x.lt .zero then none
  else match x.ratio? with
    | none => none
    | some (num, den) =>
      if num ≥ pow2 64 * den then none
      else some ⟨roundHalfEven (num * Duration.perSecond) den⟩

/-- How delays grow from one retry to the next. -/
structure Backoff where
  first : Duration
  max : Duration
  factor : Binary64
  deriving DecidableEq, Repr, Inhabited

/-- The exponent of the growth factor before a retry; retry 0 counts as retry 1. -/
def Backoff.exponent (retry : Nat) : Nat := min (retry - 1) (pow2 31 - 1)

/-- The uncapped delay in seconds. -/
def Backoff.growth (b : Backoff) (retry : Nat) : Binary64 :=
  b.first.toSeconds.mul (b.factor.pow (exponent retry))

/-- The delay before a retry; none when the capped number of seconds is no span of time. -/
def Backoff.delay? (b : Backoff) (retry : Nat) : Option Duration :=
  let s := b.growth retry
  if !s.isFinite || s.lt .zero || b.max.toSeconds.lt s then some b.max
  else Duration.ofSecondsDouble? s

/-- A number of retries and the delays between them. -/
structure RetryPolicy where
  maxRetries : Nat := 5
  backoff : Backoff := ⟨.ofSeconds 5, .ofSeconds 300, .ofNat 2⟩
  deriving DecidableEq, Repr, Inhabited

/-- What comes after a failure. -/
inductive RetryDecision
  | after (delay : Duration)
  | spent
  /-- The delay is no span of time. -/
  | noDelay
  deriving DecidableEq, Repr, Inhabited

/-- The delay before the given retry, while the budget lasts. -/
def RetryPolicy.decide (p : RetryPolicy) (retry : Nat) : RetryDecision :=
  if retry ≤ p.maxRetries then
    match p.backoff.delay? retry with
    | some d => .after d
    | none => .noDelay
  else .spent

end ProxyWatch
