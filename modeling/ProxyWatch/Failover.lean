import ProxyWatch.Number.Binary64
import ProxyWatch.Event
import ProxyWatch.Registry

/-!
Failover: probe outcomes become changes of the registry. A failed outcome lengthens the endpoint's
streak and, once the streak reaches the limit, disables the endpoint; any other outcome ends the streak.
-/
namespace ProxyWatch

namespace MovingAverage

/-- The weight of the newest sample. -/
def newest : Binary64 := .ofRatio false 3 10

/-- The weight of the average so far. -/
def kept : Binary64 := Binary64.one.sub newest

/-- The average after one more sample; the first sample is the average itself. -/
def blend (average : Option Nat) (sample : Nat) : Nat :=
  match average with
  | none => sample
  | some previous =>
    ((newest.mul (.ofNat sample)).add (kept.mul (.ofNat previous))).roundToNat maxU64

end MovingAverage

/-- The update that an outcome implies, given the failure limit. -/
def Endpoint.nextUpdate (e : Endpoint) (o : ProbeOutcome) (limit : Nat) : HealthUpdate :=
  match o.level with
  | .failed =>
    let failures := min (e.failures + 1) maxU32
    { status := .failed, failures, averageMs := e.averageMs, lastChecked := some o.checkedAt
      enabled := if e.enabled && decide (failures ≥ limit) then some false else none }
  | level =>
    { status := level.status, failures := 0
      averageMs := some (MovingAverage.blend e.averageMs o.responseMs)
      lastChecked := some o.checkedAt, enabled := none }

/-- The update that gives an endpoint back to use: a clean streak, and an average that stays. -/
def Endpoint.reenableUpdate (e : Endpoint) : HealthUpdate :=
  { status := .unknown, failures := 0, averageMs := e.averageMs, lastChecked := e.lastChecked
    enabled := some true }

/-- The effect of one outcome. -/
structure Applied where
  endpoint : Endpoint
  previous : HealthStatus
  autoDisabled : Bool
  deriving DecidableEq, Repr, Inhabited

def Applied.changed (a : Applied) : Bool := decide (a.previous ≠ a.endpoint.status)

/-- What an applied outcome reports: a change of status, then the disabling. -/
def Applied.events (a : Applied) : List Event :=
  (if a.changed then
    [.healthChanged a.endpoint.id a.previous a.endpoint.status a.endpoint.failures
      a.endpoint.averageMs] else []) ++
  (if a.autoDisabled then [.autoDisabled a.endpoint.id a.endpoint.failures] else [])

namespace Failover

/-- The failure limit in force: at least one. -/
def limitOf (configured : Nat) : Nat := max configured 1

/-- Applies an outcome to the record with the given id. -/
def apply (limit : Nat) (r : Registry) (id : String) (o : ProbeOutcome) :
    Except RegistryError (Registry × Applied) := do
  let current ← r.get id
  let update := current.nextUpdate o limit
  let (r, endpoint) ← r.applyHealth id update
  return (r, { endpoint, previous := current.status, autoDisabled := update.enabled = some false })

/-- Gives the endpoint with the given id back to use. -/
def reenable (r : Registry) (id : String) :
    Except RegistryError (Registry × Endpoint × List Event) := do
  let current ← r.get id
  let (r, endpoint) ← r.applyHealth id current.reenableUpdate
  let events := if current.status = .unknown then []
    else [.healthChanged id current.status .unknown 0 endpoint.averageMs]
  return (r, endpoint, events)

end Failover
end ProxyWatch
