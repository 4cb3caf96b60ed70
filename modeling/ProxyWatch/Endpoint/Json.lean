import ProxyWatch.Event
import ProxyWatch.Json.Fields
import ProxyWatch.Timestamp.Reader

/-!
Endpoints, outcomes and sessions' parts as JSON records.
-/
namespace ProxyWatch

/-- Writes an optional value, null for none. -/
def Json.ofOption {α : Type} (write : α → Json) : Option α → Json
  | some a => write a
  | none => .null

def Json.ofNat (n : Nat) : Json := .int n

def Timestamp.toJson (t : Timestamp) : Json := .str t.text

def Timestamp.ofJson? : Json → Option Timestamp
  | .str s => Timestamp.parse? s.toList
  | _ => none

def HealthStatus.toJson (s : HealthStatus) : Json := .str s.name

def HealthStatus.ofJson? : Json → Option HealthStatus :=
  Json.choice? ([.unknown, .healthy, .degraded, .failed].map fun s => (s.name, s))

def ProbeLevel.toJson (l : ProbeLevel) : Json := .str l.name

def ProbeLevel.ofJson? : Json → Option ProbeLevel :=
  Json.choice? ([.healthy, .degraded, .failed].map fun l => (l.name, l))

def SessionState.toJson (s : SessionState) : Json := .str s.name

def SessionState.ofJson? : Json → Option SessionState :=
  Json.choice? ([.starting, .running, .retrying, .stopped, .failed].map fun s => (s.name, s))

namespace Endpoint

/-- The names of the stored fields, in order. -/
def fieldNames : List String :=
  ["id", "name", "url", "priority", "enabled", "health_status", "consecutive_failures",
    "last_checked_at", "average_response_time_ms"]

/-- The record of an endpoint; the name is left out when there is none. -/
def toJson (e : Endpoint) : Json :=
  .obj (("id", .str e.id) ::
    (match e.name with | some n => [("name", .str n)] | none => []) ++
    [("url", .str e.url), ("priority", .ofNat e.priority), ("enabled", .bool e.enabled),
      ("health_status", e.status.toJson), ("consecutive_failures", .ofNat e.failures),
      ("last_checked_at", .ofOption Timestamp.toJson e.lastChecked),
      ("average_response_time_ms", .ofOption .ofNat e.averageMs)])

def ofJson? (j : Json) : Option Endpoint := do
  let f ← j.fields? fieldNames
  return {
    id := ← f.required "id" Json.string?
    name := ← f.nullable "name" Json.string?
    url := ← f.required "url" Json.string?
    priority := ← f.required "priority" (Json.nat? maxU32)
    enabled := ← f.required "enabled" Json.bool?
    status := ← f.defaulted "health_status" .unknown HealthStatus.ofJson?
    failures := ← f.defaulted "consecutive_failures" 0 (Json.nat? maxU32)
    lastChecked := ← f.nullable "last_checked_at" Timestamp.ofJson?
    averageMs := ← f.nullable "average_response_time_ms" (Json.nat? maxU64) }

end Endpoint

namespace ProbeOutcome

def toJson (o : ProbeOutcome) : Json :=
  .obj [("level", o.level.toJson), ("response_time_ms", .ofNat o.responseMs),
    ("http_status", .ofOption .ofNat o.httpStatus), ("error", .ofOption .str o.error),
    ("checked_at", o.checkedAt.toJson)]

def ofJson? (j : Json) : Option ProbeOutcome := do
  let f ← j.fields? ["level", "response_time_ms", "http_status", "error", "checked_at"]
  return {
    level := ← f.required "level" ProbeLevel.ofJson?
    responseMs := ← f.required "response_time_ms" (Json.nat? maxU64)
    httpStatus := ← f.optional "http_status" (Json.nat? maxU16)
    error := ← f.optional "error" Json.string?
    checkedAt := ← f.required "checked_at" Timestamp.ofJson? }

end ProbeOutcome

namespace Route

/-- The record of a route: its kind, and the id of an endpoint. -/
def toJson : Route → Json
  | endpoint id => .obj [("kind", .str "endpoint"), ("endpoint_id", .str id)]
  | direct => .obj [("kind", .str "direct_connection")]

/-- The route of a kind, `true` for an endpoint, and its content. -/
def ofParts? (isEndpoint : Bool) (content : Json) : Option Route :=
  if isEndpoint then content.string?.map endpoint
  else match content with
    | .null => some direct
    | _ => none

/-- Reads a route; only an object may leave out the content of a direct connection. -/
def ofJson? (j : Json) : Option Route := do
  let f ← j.fields? ["kind", "endpoint_id"]
  let isEndpoint ← f.required "kind"
    (Json.choice? [("endpoint", true), ("direct_connection", false)])
  match f.get? "endpoint_id" with
  | some content => ofParts? isEndpoint content
  | none => if isEndpoint || f.positional then none else some direct

end Route
end ProxyWatch
