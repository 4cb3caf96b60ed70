import ProxyWatch.Config.Toml

/-!
Configurations as JSON records. What is left out has its default.
-/
namespace ProxyWatch

/-- A double as a JSON number, null if it is none. -/
def Json.ofDouble : Binary64 → Json
  | .finite negative m e =>
    if m = 0 then .real negative 0 0
    else
      let s := Binary64.shortest m e
      .real negative s.digits s.exponent
  | _ => .null

/-- A number as a double. -/
def Json.double? : Json → Option Binary64
  | .int i => some (.ofRatio (i < 0) i.natAbs 1)
  | .real negative digits exponent =>
    let x := Binary64.ofDecimal negative digits exponent
    if x.isFinite then some x else none
  | _ => none

namespace HealthConfig

def ofJson? (j : Json) : Option HealthConfig := do
  let f ← j.fields? ["health_check_interval_seconds", "probe_timeout_seconds", "probe_url"]
  let d : HealthConfig := {}
  return {
    intervalSeconds :=
      ← f.defaulted "health_check_interval_seconds" d.intervalSeconds (Json.nat? maxU64)
    timeoutSeconds := ← f.defaulted "probe_timeout_seconds" d.timeoutSeconds (Json.nat? maxU64)
    probeUrl := ← f.defaulted "probe_url" d.probeUrl Json.string? }

def toJson (h : HealthConfig) : Json :=
  .obj [("health_check_interval_seconds", .ofNat h.intervalSeconds),
    ("probe_timeout_seconds", .ofNat h.timeoutSeconds), ("probe_url", .str h.probeUrl)]

end HealthConfig

namespace FailoverConfig

def ofJson? (j : Json) : Option FailoverConfig := do
  let f ← j.fields? ["max_consecutive_failures", "fallback_to_direct_connection"]
  let d : FailoverConfig := {}
  return {
    maxFailures := ← f.defaulted "max_consecutive_failures" d.maxFailures (Json.nat? maxU32)
    fallback := ← f.defaulted "fallback_to_direct_connection" d.fallback Json.bool? }

def toJson (c : FailoverConfig) : Json :=
  .obj [("max_consecutive_failures", .ofNat c.maxFailures),
    ("fallback_to_direct_connection", .bool c.fallback)]

end FailoverConfig

namespace SupervisorConfig

def ofJson? (j : Json) : Option SupervisorConfig := do
  let f ← j.fields? fieldNames
  let d : SupervisorConfig := {}
  return {
    maxRetries := ← f.defaulted "max_retry_attempts" d.maxRetries (Json.nat? maxU32)
    firstDelaySeconds :=
      ← f.defaulted "backoff_initial_seconds" d.firstDelaySeconds (Json.nat? maxU64)
    maxDelaySeconds := ← f.defaulted "backoff_max_seconds" d.maxDelaySeconds (Json.nat? maxU64)
    factor := ← f.defaulted "backoff_factor" d.factor Json.double?
    startTimeoutSeconds :=
      ← f.defaulted "start_timeout_seconds" d.startTimeoutSeconds (Json.nat? maxU64)
    startConfirmMs := ← f.defaulted "start_confirm_ms" d.startConfirmMs (Json.nat? maxU64)
    stopGraceSeconds := ← f.defaulted "stop_grace_seconds" d.stopGraceSeconds (Json.nat? maxU64) }

def toJson (s : SupervisorConfig) : Json :=
  .obj [("max_retry_attempts", .ofNat s.maxRetries),
    ("backoff_initial_seconds", .ofNat s.firstDelaySeconds),
    ("backoff_max_seconds", .ofNat s.maxDelaySeconds), ("backoff_factor", .ofDouble s.factor),
    ("start_timeout_seconds", .ofNat s.startTimeoutSeconds),
    ("start_confirm_ms", .ofNat s.startConfirmMs), ("stop_grace_seconds", .ofNat s.stopGraceSeconds)]

end SupervisorConfig

namespace ProxySeed

def ofJson? (j : Json) : Option ProxySeed := do
  let f ← j.fields? fieldNames
  return {
    id := ← f.required "id" Json.string?
    url := ← f.required "url" Json.string?
    priority := ← f.defaulted "priority" 0 (Json.nat? maxU32)
    enabled := ← f.defaulted "enabled" true Json.bool?
    name := ← f.nullable "name" Json.string? }

def toJson (s : ProxySeed) : Json :=
  .obj [("id", .str s.id), ("url", .str s.url), ("priority", .ofNat s.priority),
    ("enabled", .bool s.enabled), ("name", .ofOption .str s.name)]

end ProxySeed

namespace Config

def ofJson? (j : Json) : Option Config := do
  let f ← j.fields? ["health", "failover", "supervisor", "capture", "state_path", "proxies"]
  return {
    health := ← f.defaulted "health" {} HealthConfig.ofJson?
    failover := ← f.defaulted "failover" {} FailoverConfig.ofJson?
    supervisor := ← f.defaulted "supervisor" {} SupervisorConfig.ofJson?
    capture := ← f.defaulted "capture" {} CaptureCommand.ofJson?
    statePath := ← f.nullable "state_path" Json.string?
    proxies := ← f.defaulted "proxies" [] (Json.list? ProxySeed.ofJson?) }

def toJson (c : Config) : Json :=
  .obj [("health", c.health.toJson), ("failover", c.failover.toJson),
    ("supervisor", c.supervisor.toJson), ("capture", c.capture.toJson),
    ("state_path", .ofOption .str c.statePath), ("proxies", .arr (c.proxies.map ProxySeed.toJson))]

end Config
end ProxyWatch
