import ProxyWatch.Capture.Command
import ProxyWatch.Checker.Options
import ProxyWatch.Endpoint
import ProxyWatch.FileTree
import ProxyWatch.ProxyUrl
import ProxyWatch.Session.Options
import ProxyWatch.Text.Blank

/-!
The configuration: health checks, failover, supervision of captures, the capture command, the state file
and the endpoints known from the start.
-/
namespace ProxyWatch

/-- Settings of health checks. -/
structure HealthConfig where
  intervalSeconds : Nat := 300
  timeoutSeconds : Nat := 10
  probeUrl : String := ({} : CheckOptions).probeUrl
  deriving DecidableEq, Repr, Inhabited

/-- Settings of failover and selection. -/
structure FailoverConfig where
  maxFailures : Nat := 3
  fallback : Bool := true
  deriving DecidableEq, Repr, Inhabited

/-- Settings of supervision. -/
structure SupervisorConfig where
  maxRetries : Nat := 5
  firstDelaySeconds : Nat := 5
  maxDelaySeconds : Nat := 300
  factor : Binary64 := .ofNat 2
  startTimeoutSeconds : Nat := 15
  startConfirmMs : Nat := 2000
  stopGraceSeconds : Nat := 10
  deriving DecidableEq, Repr, Inhabited

/-- An endpoint of the configuration. -/
structure ProxySeed where
  id : String
  url : String
  priority : Nat := 0
  enabled : Bool := true
  name : Option String := none
  deriving DecidableEq, Repr, Inhabited

/-- The endpoint that a seed stands for. -/
def ProxySeed.endpoint (s : ProxySeed) : Endpoint :=
  { id := s.id, name := s.name, url := s.url, priority := s.priority, enabled := s.enabled }

/-- A configuration. -/
structure Config where
  health : HealthConfig := {}
  failover : FailoverConfig := {}
  supervisor : SupervisorConfig := {}
  capture : CaptureCommand := {}
  /-- The state file; without one endpoints are kept in memory only. -/
  statePath : Option String := none
  proxies : List ProxySeed := []
  deriving DecidableEq, Repr, Inhabited

/-- What is wrong with a setting. -/
inductive Fault
  | notPositive
  | overADay
  | notBelowInterval
  | notWebUrl
  | noUrl (error : UrlError)
  | belowOne
  | aboveMaxDelay
  | notBelowStartTimeout
  | empty
  | duplicate (id : String)
  deriving DecidableEq, Repr, Inhabited

/-- The longest span that a setting may name, in seconds: one day. -/
def maxSettingSeconds : Nat := 86400

def Fault.message : Fault → String
  | notPositive => "must be > 0"
  | overADay => "must be at most " ++ Decimal.text maxSettingSeconds ++ " seconds"
  | notBelowInterval => "must be shorter than the check interval"
  | notWebUrl => "must be an http(s) url"
  | noUrl e => e.message
  | belowOne => "must be >= 1.0"
  | aboveMaxDelay => "must not exceed backoff_max_seconds"
  | notBelowStartTimeout => "must be shorter than start_timeout_seconds"
  | empty => "must not be empty"
  | duplicate id => "duplicate id '" ++ id ++ "'"

/-- Why there is no usable configuration. -/
inductive ConfigError
  | homeNotFound
  | read (path : String) (error : FileError)
  | write (path : String) (error : FileError)
  | malformed
  | invalid (field : String) (fault : Fault)
  | invalidProxyUrl (id : String) (error : ProxyUrlError)
  deriving DecidableEq, Repr, Inhabited

def ConfigError.message : ConfigError → String
  | homeNotFound => "home directory not found"
  | read path e => "failed to read config " ++ path ++ ": " ++ e.message
  | write path e => "failed to write config " ++ path ++ ": " ++ e.message
  | malformed => "failed to parse config: "
  | invalid field fault => "invalid value for " ++ field ++ ": " ++ fault.message
  | invalidProxyUrl id e => "invalid proxy url for " ++ id ++ ": " ++ e.message

/-- Refuses a setting under a condition. -/
def refuse (condition : Bool) (field : String) (fault : Fault) : Except ConfigError Unit :=
  if condition then .error (.invalid field fault) else .ok ()

/-- The url of a proxy must be one. -/
def checkProxyUrl (id url : String) : Except ConfigError Unit :=
  (ProxyUrl.validate url).mapError (.invalidProxyUrl id)

def HealthConfig.validate (h : HealthConfig) : Except ConfigError Unit := do
  refuse (h.intervalSeconds == 0) "health.health_check_interval_seconds" .notPositive
  refuse (h.timeoutSeconds == 0) "health.probe_timeout_seconds" .notPositive
  refuse (h.intervalSeconds > maxSettingSeconds) "health.health_check_interval_seconds" .overADay
  refuse (h.timeoutSeconds ≥ h.intervalSeconds) "health.probe_timeout_seconds" .notBelowInterval
  match Url.parse h.probeUrl.toList with
  | .error e => throw (.invalid "health.probe_url" (.noUrl e))
  | .ok u =>
    refuse (!(u.scheme == "http".toList || u.scheme == "https".toList)) "health.probe_url" .notWebUrl

def SupervisorConfig.validate (s : SupervisorConfig) : Except ConfigError Unit := do
  refuse (!s.factor.isFinite || s.factor.lt .one) "supervisor.backoff_factor" .belowOne
  refuse (s.maxDelaySeconds > maxSettingSeconds) "supervisor.backoff_max_seconds" .overADay
  refuse (s.firstDelaySeconds > s.maxDelaySeconds) "supervisor.backoff_initial_seconds" .aboveMaxDelay
  refuse (s.startTimeoutSeconds == 0) "supervisor.start_timeout_seconds" .notPositive
  refuse (s.startTimeoutSeconds > maxSettingSeconds) "supervisor.start_timeout_seconds" .overADay
  refuse (s.stopGraceSeconds > maxSettingSeconds) "supervisor.stop_grace_seconds" .overADay
  refuse (s.startConfirmMs ≥ min (s.startTimeoutSeconds * 1000) maxU64) "supervisor.start_confirm_ms"
    .notBelowStartTimeout

/-- Checks seeds one after another, given the ids of those before. -/
def ProxySeed.validate (seen : List String) : List ProxySeed → Except ConfigError Unit
  | [] => .ok ()
  | s :: rest => do
    refuse (Blank.isAllBlank s.id) "proxies.id" .empty
    refuse (seen.contains s.id) "proxies.id" (.duplicate s.id)
    checkProxyUrl s.id s.url
    validate (s.id :: seen) rest

namespace Config

/-- Checks all settings; the first fault counts. -/
def validate (c : Config) : Except ConfigError Unit := do
  c.health.validate
  refuse (c.failover.maxFailures == 0) "failover.max_consecutive_failures" .notPositive
  c.supervisor.validate
  refuse (Blank.isAllBlank c.capture.program) "capture.program" .empty
  ProxySeed.validate [] c.proxies

/-- The options of health checks. -/
def checkOptions (c : Config) : CheckOptions where
  interval := .ofSeconds c.health.intervalSeconds
  timeout := .ofSeconds c.health.timeoutSeconds
  probeUrl := c.health.probeUrl

/-- The options of capture sessions. -/
def sessionOptions (c : Config) : SessionOptions where
  retry :=
    { maxRetries := c.supervisor.maxRetries
      backoff :=
        { first := .ofSeconds c.supervisor.firstDelaySeconds
          max := .ofSeconds c.supervisor.maxDelaySeconds
          factor := c.supervisor.factor } }
  startTimeout := .ofSeconds c.supervisor.startTimeoutSeconds
  startConfirm := .ofMillis c.supervisor.startConfirmMs
  stopGrace := .ofSeconds c.supervisor.stopGraceSeconds
  fallback := c.failover.fallback

end Config
end ProxyWatch
