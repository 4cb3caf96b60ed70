import ProxyWatch.Event
import ProxyWatch.Registry

/-!
Choosing the endpoint for a capture: enabled endpoints that a probe has proven usable, healthy ones
first, then by priority, average response time and id.
-/
namespace ProxyWatch

/-- Why no route was chosen. -/
inductive SelectionError
  | noProxyAvailable
  deriving DecidableEq, Repr, Inhabited

def SelectionError.message : SelectionError → String
  | noProxyAvailable => "no proxy available and direct connection fallback is disabled"

/-- What a capture is to use. -/
inductive Choice
  | endpoint (e : Endpoint)
  | direct
  deriving DecidableEq, Repr, Inhabited

namespace Choice

def route : Choice → Route
  | endpoint e => .endpoint e.id
  | direct => .direct

/-- The proxy url to hand to the capture. -/
def proxyUrl : Choice → Option String
  | endpoint e => some e.url
  | direct => none

end Choice

namespace Selection

/-- Healthy endpoints come before degraded ones; others are not selectable. -/
def bucket : HealthStatus → Option Nat
  | .healthy => some 0
  | .degraded => some 1
  | _ => none

def isCandidate (e : Endpoint) : Bool := e.enabled && (bucket e.status).isSome

/-- A missing response time comes after every measured one. -/
def compareTimes : Option Nat → Option Nat → Ordering
  | some a, some b => compare a b
  | some _, none => .lt
  | none, some _ => .gt
  | none, none => .eq

/-- The order of preference, best first. -/
def prefer (a b : Endpoint) : Ordering :=
  (compare (bucket a.status) (bucket b.status)).then
    ((compare a.priority b.priority).then
      ((compareTimes a.averageMs b.averageMs).then (compare a.id b.id)))

/-- A list of endpoints by id; those with one id keep their order. -/
def snapshot (es : List Endpoint) : List Endpoint := es.mergeSort fun a b => decide (a.id ≤ b.id)

/-- The selectable endpoints, best first. -/
def rank (es : List Endpoint) : List Endpoint :=
  (es.filter isCandidate).mergeSort fun a b => (prefer a b).isLE

/-- The best endpoint, or a direct connection when there is none and it is allowed. -/
def select (es : List Endpoint) (fallback : Bool) : Except SelectionError Choice :=
  match rank es with
  | e :: _ => .ok (.endpoint e)
  | [] => if fallback then .ok .direct else .error .noProxyAvailable

end Selection
end ProxyWatch
