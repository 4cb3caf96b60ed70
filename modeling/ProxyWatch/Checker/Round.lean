import ProxyWatch.Checker.Options
import ProxyWatch.Failover
import ProxyWatch.Clock
import ProxyWatch.Probe.Script
import ProxyWatch.Registry.StateFile

/-!
Rounds of probes that are started together. Each probe lands on its own, at the latest when its bound is over,
and its outcome is applied at once to the endpoint that then has the probed id.
-/
namespace ProxyWatch

/-- A probe on its way. -/
structure Flight where
  endpoint : String
  /-- The instant at which it lands. -/
  landing : Nat
  /-- What it lands with. -/
  result : ProbeResult
  deriving Inhabited

/-- A probe that starts now. A reply counts if it comes no later than the bound, else the probe lands at the
bound with a timeout. -/
def Flight.ofReply (endpoint : String) (now : Nat) (bound timeout : Duration) (reply : Reply) :
    Flight :=
  let latest := Clock.timer now bound
  match reply.delay with
  | some d =>
    if now + d ≤ latest then { endpoint, landing := now + d, result := reply.result }
    else { endpoint, landing := latest, result := .error (.timeout timeout) }
  | none => { endpoint, landing := latest, result := .error (.timeout timeout) }

/-- The outcome of one probe of a round. -/
structure Check where
  endpoint : String
  outcome : ProbeOutcome
  /-- The effect on the registry; none if there was none. -/
  applied : Option Applied
  deriving Inhabited

/-- Probes that are started together. -/
structure Round where
  flights : List Flight
  /-- What has landed, by endpoint id. -/
  checks : List Check := []
  /-- The outcomes leave the registry as it is. -/
  dry : Bool := false
  deriving Inhabited

namespace Round

/-- Adds a check in its place by endpoint id. -/
def insertCheck (c : Check) : List Check → List Check
  | [] => [c]
  | x :: xs => if c.endpoint ≤ x.endpoint then c :: x :: xs else x :: insertCheck c xs

/-- All probes have landed. -/
def isOver (r : Round) : Bool := r.flights.isEmpty

/-- The first probe that lands by now, and the others. -/
def landed? (now : Nat) : List Flight → Option (Flight × List Flight)
  | [] => none
  | f :: fs =>
    if f.landing ≤ now then some (f, fs)
    else (landed? now fs).map fun (g, gs) => (g, f :: gs)

/-- The instants at which probes land. -/
def due (r : Round) : List Nat := r.flights.map (·.landing)

/-- The endpoints whose probes had the given verdict. -/
def count (r : Round) (level : ProbeLevel) : Nat := r.checks.countP (·.outcome.level = level)

/-- The endpoints that the round disabled. -/
def autoDisabled (r : Round) : List String :=
  (r.checks.filter fun c => c.applied.any (·.autoDisabled)).map (·.endpoint)

end Round

/-- Applies an outcome to a stored registry; what cannot be applied changes nothing. -/
def Store.applyOutcome (s : Store) (t : FileTree) (limit : Nat) (id : String) (o : ProbeOutcome) :
    Except RegistryError (Store × FileTree × Applied) := do
  let (r, a) ← Failover.apply limit s.registry id o
  let (s, t) := s.commit t o.checkedAt r
  return (s, t, a)

end ProxyWatch
