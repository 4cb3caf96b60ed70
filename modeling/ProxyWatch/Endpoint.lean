import ProxyWatch.Number.Power
import ProxyWatch.Timestamp

/-!
Proxy endpoints and what probes say about them.
-/
namespace ProxyWatch

/-- The health of an endpoint as last established. -/
inductive HealthStatus
  | unknown
  | healthy
  | degraded
  | failed
  deriving DecidableEq, Repr, Inhabited

/-- The verdict of one probe. -/
inductive ProbeLevel
  | healthy
  | degraded
  | failed
  deriving DecidableEq, Repr, Inhabited

/-- The status that a probe's verdict gives to its endpoint. -/
def ProbeLevel.status : ProbeLevel → HealthStatus
  | healthy => .healthy
  | degraded => .degraded
  | failed => .failed

/-- The word shown to people. -/
def HealthStatus.word : HealthStatus → String
  | unknown => "unknown"
  | healthy => "healthy"
  | degraded => "degraded"
  | failed => "failed"

/-- The name in stored records. -/
def HealthStatus.name : HealthStatus → String
  | unknown => "Unknown"
  | healthy => "Healthy"
  | degraded => "Degraded"
  | failed => "Failed"

/-- The name in stored records. -/
def ProbeLevel.name (l : ProbeLevel) : String := l.status.name

/-- A proxy endpoint. Priority 0 is the highest. -/
structure Endpoint where
  id : String
  name : Option String := none
  url : String
  priority : Nat
  enabled : Bool := true
  status : HealthStatus := .unknown
  failures : Nat := 0
  lastChecked : Option Timestamp := none
  averageMs : Option Nat := none
  deriving DecidableEq, Repr, Inhabited

/-- The greatest value of a 16-bit counter. -/
def maxU16 : Nat := pow2 16 - 1

/-- The greatest value of a 32-bit counter. -/
def maxU32 : Nat := pow2 32 - 1

/-- The greatest value of a 64-bit counter. -/
def maxU64 : Nat := pow2 64 - 1

/-- The endpoint with its health as at insertion. -/
def Endpoint.resetHealth (e : Endpoint) : Endpoint :=
  { e with status := .unknown, failures := 0, lastChecked := none, averageMs := none }

/-- The outcome of one probe; the response time is 0 when nothing was measured. -/
structure ProbeOutcome where
  level : ProbeLevel
  responseMs : Nat
  httpStatus : Option Nat := none
  error : Option String := none
  checkedAt : Timestamp
  deriving DecidableEq, Repr, Inhabited

/-- A change of the health fields, applied as one unit; `enabled` is set only when given. -/
structure HealthUpdate where
  status : HealthStatus
  failures : Nat
  averageMs : Option Nat
  lastChecked : Option Timestamp
  enabled : Option Bool
  deriving DecidableEq, Repr, Inhabited

/-- The endpoint after a health update. -/
def Endpoint.update (e : Endpoint) (u : HealthUpdate) : Endpoint :=
  { e with
    status := u.status, failures := u.failures, averageMs := u.averageMs,
    lastChecked := u.lastChecked, enabled := u.enabled.getD e.enabled }

end ProxyWatch
