import ProxyWatch.Capture.Json
import ProxyWatch.Config
import ProxyWatch.Number.Power
import ProxyWatch.Toml.Printer
import ProxyWatch.Toml.Reader

/-!
Configurations as TOML documents. A section may also be an array of its settings in order; what is left
out has its default, and what is not known is ignored.
-/
namespace ProxyWatch

namespace Toml

/-- The settings of a section with the given names. -/
def fields? (names : List String) : Toml → Option (List (String × Toml))
  | table ms => some ms
  | arr vs => some (names.zip vs)
  | moment _ => some []
  | _ => none

variable {α : Type}

/-- A setting with a default. -/
def setting (fields : List (String × Toml)) (name : String) (default : α) (read : Toml → Option α) :
    Option α :=
  match fields.find? (·.1 == name) with
  | some (_, v) => read v
  | none => some default

/-- A setting that may be missing. -/
def settingOption (fields : List (String × Toml)) (name : String) (read : Toml → Option α) :
    Option (Option α) :=
  setting fields name none fun v => (read v).map some

/-- A setting that must be there. -/
def required (fields : List (String × Toml)) (name : String) (read : Toml → Option α) : Option α :=
  (fields.find? (·.1 == name)).bind fun m => read m.2

def string? : Toml → Option String
  | str s => some s
  | _ => none

def bool? : Toml → Option Bool
  | bool b => some b
  | _ => none

/-- A natural number up to `limit`. -/
def nat? (limit : Nat) : Toml → Option Nat
  | int i => if 0 ≤ i ∧ i ≤ limit then some i.toNat else none
  | _ => none

/-- A double, or an integer of 64 bits. -/
def double? : Toml → Option Binary64
  | float x => some x
  | int i =>
    if -(pow2 63 : Int) ≤ i ∧ i ≤ maxU64 then some (.ofRatio (i < 0) i.natAbs 1) else none
  | _ => none

def list? (read : Toml → Option α) : Toml → Option (List α)
  | arr vs => vs.mapM read
  | _ => none

/-- A table of strings, as variables. -/
def variables? : Toml → Option (List (String × String))
  | table ms =>
    (ms.mapM fun (m : String × Toml) => m.2.string?.map fun s => (m.1, s)).map variablesOf
  | _ => none

end Toml

namespace HealthConfig

def ofToml? (v : Toml) : Option HealthConfig := do
  let f ← v.fields? ["health_check_interval_seconds", "probe_timeout_seconds", "probe_url"]
  let d : HealthConfig := {}
  return {
    intervalSeconds :=
      ← Toml.setting f "health_check_interval_seconds" d.intervalSeconds (Toml.nat? maxU64)
    timeoutSeconds := ← Toml.setting f "probe_timeout_seconds" d.timeoutSeconds (Toml.nat? maxU64)
    probeUrl := ← Toml.setting f "probe_url" d.probeUrl Toml.string? }

def toToml (h : HealthConfig) : Toml :=
  .table [("health_check_interval_seconds", .int h.intervalSeconds),
    ("probe_timeout_seconds", .int h.timeoutSeconds), ("probe_url", .str h.probeUrl)]

end HealthConfig

namespace FailoverConfig

def ofToml? (v : Toml) : Option FailoverConfig := do
  let f ← v.fields? ["max_consecutive_failures", "fallback_to_direct_connection"]
  let d : FailoverConfig := {}
  return {
    maxFailures := ← Toml.setting f "max_consecutive_failures" d.maxFailures (Toml.nat? maxU32)
    fallback := ← Toml.setting f "fallback_to_direct_connection" d.fallback Toml.bool? }

def toToml (c : FailoverConfig) : Toml :=
  .table [("max_consecutive_failures", .int c.maxFailures),
    ("fallback_to_direct_connection", .bool c.fallback)]

end FailoverConfig

namespace SupervisorConfig

/-- The names of the settings, in order. -/
def fieldNames : List String :=
  ["max_retry_attempts", "backoff_initial_seconds", "backoff_max_seconds", "backoff_factor",
    "start_timeout_seconds", "start_confirm_ms", "stop_grace_seconds"]

def ofToml? (v : Toml) : Option SupervisorConfig := do
  let f ← v.fields? fieldNames
  let d : SupervisorConfig := {}
  return {
    maxRetries := ← Toml.setting f "max_retry_attempts" d.maxRetries (Toml.nat? maxU32)
    firstDelaySeconds :=
      ← Toml.setting f "backoff_initial_seconds" d.firstDelaySeconds (Toml.nat? maxU64)
    maxDelaySeconds := ← Toml.setting f "backoff_max_seconds" d.maxDelaySeconds (Toml.nat? maxU64)
    factor := ← Toml.setting f "backoff_factor" d.factor Toml.double?
    startTimeoutSeconds :=
      ← Toml.setting f "start_timeout_seconds" d.startTimeoutSeconds (Toml.nat? maxU64)
    startConfirmMs := ← Toml.setting f "start_confirm_ms" d.startConfirmMs (Toml.nat? maxU64)
    stopGraceSeconds := ← Toml.setting f "stop_grace_seconds" d.stopGraceSeconds (Toml.nat? maxU64) }

def toToml (s : SupervisorConfig) : Toml :=
  .table [("max_retry_attempts", .int s.maxRetries),
    ("backoff_initial_seconds", .int s.firstDelaySeconds),
    ("backoff_max_seconds", .int s.maxDelaySeconds), ("backoff_factor", .float s.factor),
    ("start_timeout_seconds", .int s.startTimeoutSeconds),
    ("start_confirm_ms", .int s.startConfirmMs), ("stop_grace_seconds", .int s.stopGraceSeconds)]

end SupervisorConfig

namespace CaptureCommand

def ofToml? (v : Toml) : Option CaptureCommand := do
  let f ← v.fields? fieldNames
  let d : CaptureCommand := {}
  return {
    program := ← Toml.setting f "program" d.program Toml.string?
    args := ← Toml.setting f "args" d.args (Toml.list? Toml.string?)
    proxyEnv := ← Toml.setting f "proxy_env" d.proxyEnv (Toml.list? Toml.string?)
    env := ← Toml.setting f "env" d.env Toml.variables?
    workingDir := ← Toml.settingOption f "working_dir" Toml.string? }

def toToml (c : CaptureCommand) : Toml :=
  .table ([("program", .str c.program), ("args", .arr (c.args.map .str)),
    ("proxy_env", .arr (c.proxyEnv.map .str)),
    ("env", .table (c.env.map fun (n, v) => (n, .str v)))] ++
    (match c.workingDir with | some d => [("working_dir", .str d)] | none => []))

end CaptureCommand

namespace ProxySeed

/-- The names of the settings, in order. -/
def fieldNames : List String := ["id", "url", "priority", "enabled", "name"]

def ofToml? (v : Toml) : Option ProxySeed := do
  let f ← v.fields? fieldNames
  return {
    id := ← Toml.required f "id" Toml.string?
    url := ← Toml.required f "url" Toml.string?
    priority := ← Toml.setting f "priority" 0 (Toml.nat? maxU32)
    enabled := ← Toml.setting f "enabled" true Toml.bool?
    name := ← Toml.settingOption f "name" Toml.string? }

def toToml (s : ProxySeed) : Toml :=
  .table ([("id", .str s.id), ("url", .str s.url), ("priority", .int s.priority),
    ("enabled", .bool s.enabled)] ++
    (match s.name with | some n => [("name", .str n)] | none => []))

end ProxySeed

namespace Config

/-- The configuration that the members of a document make up. -/
def ofMembers? (f : List (String × Toml)) : Option Config := do
  return {
    health := ← Toml.setting f "health" {} HealthConfig.ofToml?
    failover := ← Toml.setting f "failover" {} FailoverConfig.ofToml?
    supervisor := ← Toml.setting f "supervisor" {} SupervisorConfig.ofToml?
    capture := ← Toml.setting f "capture" {} CaptureCommand.ofToml?
    statePath := ← Toml.settingOption f "state_path" Toml.string?
    proxies := ← Toml.setting f "proxies" [] (Toml.list? ProxySeed.ofToml?) }

/-- The configuration in a text. -/
def ofText (text : String) : Except ConfigError Config :=
  match (Toml.parse? text).bind ofMembers? with
  | some c => .ok c
  | none => .error .malformed

/-- The members of a configuration's document. -/
def toMembers (c : Config) : List (String × Toml) :=
  [("health", c.health.toToml), ("failover", c.failover.toToml),
    ("supervisor", c.supervisor.toToml), ("capture", c.capture.toToml)] ++
    (match c.statePath with | some p => [("state_path", .str p)] | none => []) ++
    [("proxies", .arr (c.proxies.map ProxySeed.toToml))]

/-- The text of a configuration. -/
def toText (c : Config) : String := Toml.print c.toMembers

end Config
end ProxyWatch
