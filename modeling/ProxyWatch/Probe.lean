import ProxyWatch.Duration
import ProxyWatch.Endpoint
import ProxyWatch.Number.Power

/-!
Classifying probes: 2xx is healthy, 4xx but 407 is degraded, everything else failed. A 4xx crossed the proxy and
was refused by the far side; 407 is the proxy refusing the credentials.
-/
namespace ProxyWatch

/-- Why a probe got no response. -/
inductive ProbeError
  | invalidRequest (detail : String)
  | connectionRefused (detail : String)
  | timeout (after : Duration)
  | transport (detail : String)
  deriving DecidableEq, Repr, Inhabited

def ProbeError.message : ProbeError → String
  | invalidRequest d => "invalid probe request: " ++ d
  | connectionRefused d => "connection refused: " ++ d
  | timeout after => "probe timed out after " ++ after.text
  | transport d => "transport error: " ++ d

/-- The head of a response and the time until it came. -/
structure ProbeResponse where
  status : Nat
  took : Duration
  deriving DecidableEq, Repr, Inhabited

abbrev ProbeResult := Except ProbeError ProbeResponse

/-- The verdict that an HTTP status code stands for. -/
def ProbeLevel.ofStatus (code : Nat) : ProbeLevel :=
  if 200 ≤ code ∧ code ≤ 299 then .healthy
  else if code = 407 then .failed
  else if 400 ≤ code ∧ code ≤ 499 then .degraded
  else .failed

/-- A failed outcome without a measured time. -/
def ProbeOutcome.failure (error : String) (now : Timestamp) : ProbeOutcome :=
  { level := .failed, responseMs := 0, error := some error, checkedAt := now }

/-- The outcome of a finished probe. The time is kept in milliseconds, in a 64-bit counter that wraps. -/
def ProbeOutcome.ofResult (now : Timestamp) : ProbeResult → ProbeOutcome
  | .ok r =>
    let level := ProbeLevel.ofStatus r.status
    { level
      responseMs := r.took.millis % pow2 64
      httpStatus := some r.status
      error := if level = .failed then some ("HTTP " ++ Decimal.text r.status) else none
      checkedAt := now }
  | .error e => .failure e.message now

end ProxyWatch
