import ProxyWatch.Retry

/-!
Timing and policy of a capture session.
-/
namespace ProxyWatch

/-- The options of a capture session. -/
structure SessionOptions where
  retry : RetryPolicy := {}
  /-- The bound for launching and confirming. -/
  startTimeout : Duration := .ofSeconds 15
  /-- How long a fresh process must live to count as started. -/
  startConfirm : Duration := .ofSeconds 2
  /-- The time between asking a process to end and forcing it. -/
  stopGrace : Duration := .ofSeconds 10
  /-- Capture without a proxy when no endpoint is selectable. -/
  fallback : Bool := true
  deriving DecidableEq, Repr, Inhabited

end ProxyWatch
