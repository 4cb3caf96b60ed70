import ProxyWatch.Endpoint

/-!
What the program reports while it runs: changes of health, endpoints taken out of use, and the
transitions of capture sessions.
-/
namespace ProxyWatch

/-- What a capture session is routed through. -/
inductive Route
  | endpoint (id : String)
  | direct
  deriving DecidableEq, Repr, Inhabited

def Route.text : Route → String
  | endpoint id => "proxy:" ++ id
  | direct => "direct"

/-- The stage of a capture session. -/
inductive SessionState
  | starting
  | running
  | retrying
  | stopped
  | failed
  deriving DecidableEq, Repr, Inhabited

namespace SessionState

def isTerminal : SessionState → Bool
  | stopped => true
  | failed => true
  | _ => false

/-- The word shown to people. -/
def word : SessionState → String
  | starting => "starting"
  | running => "running"
  | retrying => "retrying"
  | stopped => "stopped"
  | failed => "failed"

/-- The name in stored records. -/
def name : SessionState → String
  | starting => "Starting"
  | running => "Running"
  | retrying => "Retrying"
  | stopped => "Stopped"
  | failed => "Failed"

end SessionState

/-- A reported transition. -/
inductive Event
  | healthChanged (endpoint : String) (previous current : HealthStatus) (failures : Nat)
      (responseMs : Option Nat)
  | autoDisabled (endpoint : String) (failures : Nat)
  | sessionChanged (target : String) (previous : Option SessionState) (current : SessionState)
      (attempt : Nat) (route : Option Route) (error : Option String)
  deriving DecidableEq, Repr, Inhabited

/-- The event's short name. -/
def Event.kind : Event → String
  | healthChanged .. => "endpoint_health_changed"
  | autoDisabled .. => "endpoint_auto_disabled"
  | sessionChanged .. => "session_state_changed"

/-- Whom the event is about. -/
def Event.subject : Event → String
  | healthChanged id .. => id
  | autoDisabled id .. => id
  | sessionChanged id .. => id

end ProxyWatch
