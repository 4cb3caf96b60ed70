import ProxyWatch.Config
import ProxyWatch.Watch

/-!
The service: what callers can ask of the program at work. A call that waits for probes or sessions lets the
clock run and everything else go on meanwhile.
-/
namespace ProxyWatch

/-- Why a call to the service failed. -/
inductive ServiceError
  | config (e : ConfigError)
  | registry (e : RegistryError)
  | selection (e : SelectionError)
  | endpointExists (id : String)
  | emptyEndpointId
  | sessionActive (target : String)
  | sessionNotFound (target : String)
  /-- The bound for a probe is no span of time; no valid configuration has such a bound. -/
  | noProbeBound
  deriving DecidableEq, Repr, Inhabited

def ServiceError.message : ServiceError → String
  | config e => e.message
  | registry e => e.message
  | selection e => e.message
  | endpointExists id => "proxy endpoint already exists: " ++ id
  | emptyEndpointId => "proxy endpoint id must not be empty"
  | sessionActive target => "capture session already active for target: " ++ target
  | sessionNotFound target => "no capture session for target: " ++ target
  | noProbeBound => "probe timeout out of range"

/-- The service: its configuration and the program at work. -/
structure Service where
  config : Config
  watch : Watch

namespace Service

/-- The outcome of a call, with the service after it. -/
abbrev Reply (α : Type) := Service × Except ServiceError α

/-- Registers a seed that the registry does not know yet. -/
def seed (w : Watch) (s : ProxySeed) : Watch :=
  match w.store.registry.find? s.id with
  | some _ => w
  | none =>
    let (store, files) := w.store.commit w.files w.clock (w.store.registry.upsert s.endpoint).1
    { w with store, files }

/-- Opens a service in given surroundings, with a given registry or the one in the state file. -/
def build (config : Config) (registry : Option Registry) (w : Watch) : Except ServiceError Service := do
  config.validate.mapError .config
  let store : Store ← match registry, config.statePath with
    | some registry, _ => .ok { registry }
    | none, some path => (Store.openAt w.files path).mapError .registry
    | none, none => .ok {}
  let w :=
    { w with
      store, checking := config.checkOptions, limit := Failover.limitOf config.failover.maxFailures
      rounds := [], loop := none, runs := [] }
  return { config, watch := config.proxies.foldl seed w }

/-! Endpoints -/

/-- Makes a change of the registry. -/
def change (s : Service) (c : Change) : Reply Endpoint :=
  match s.watch.store.change s.watch.files s.watch.clock c with
  | .ok (store, files, e) => ({ s with watch := { s.watch with store, files } }, .ok e)
  | .error e => (s, .error (.registry e))

def list (s : Service) (enabledOnly : Bool) : List Endpoint := s.watch.store.registry.list enabledOnly

def get (s : Service) (id : String) : Except ServiceError Endpoint :=
  (s.watch.store.registry.get id).mapError .registry

/-- Probes an endpoint, enabled or not, and applies the outcome to what then has its id. -/
def check (s : Service) (id : String) : Reply Applied :=
  match s.get id with
  | .error e => (s, .error e)
  | .ok e =>
    match s.watch.startRound? [e] false with
    | none => (s, .error .noProbeBound)
    | some (w, key) =>
      let (w, round) := w.finishRound key
      match round.checks.head?.bind (·.applied) with
      | some a => ({ s with watch := w }, .ok a)
      | none => ({ s with watch := w }, .error (.registry (.notFound id)))

/-- Probes an endpoint; the endpoint after it. -/
def probed (s : Service) (id : String) : Reply Endpoint :=
  let (s, r) := s.check id
  (s, r.map (·.endpoint))

/-- Adds an endpoint with fresh health, and probes it if it is enabled. -/
def add (s : Service) (e : Endpoint) : Reply Endpoint :=
  if Blank.isAllBlank e.id then (s, .error .emptyEndpointId)
  else match checkProxyUrl e.id e.url with
    | .error fault => (s, .error (.config fault))
    | .ok _ =>
      if (s.watch.store.registry.find? e.id).isSome then (s, .error (.endpointExists e.id))
      else
        let (s, inserted) := s.change (.upsert e.resetHealth)
        if e.enabled then s.probed e.id else (s, inserted)

def remove (s : Service) (id : String) : Reply Endpoint := s.change (.delete id)

def disable (s : Service) (id : String) : Reply Endpoint := s.change (.setEnabled id false)

def reprioritize (s : Service) (id : String) (priority : Nat) : Reply Endpoint :=
  s.change (.setPriority id priority)

/-- Gives an endpoint back to use with a clean streak, and probes it. -/
def enable (s : Service) (id : String) : Reply Endpoint :=
  match Failover.reenable s.watch.store.registry id with
  | .error e => (s, .error (.registry e))
  | .ok (r, _, events) =>
    let (store, files) := s.watch.store.commit s.watch.files s.watch.clock r
    { s with watch := { s.watch with store, files }.note events }.probed id

/-- What a capture that starts now would use. -/
def select (s : Service) : Except ServiceError Choice :=
  (Selection.select s.watch.store.registry.entries s.config.failover.fallback).mapError .selection

/-! Health cycles -/

/-- Probes the enabled endpoints and waits for all of them. -/
def cycle (s : Service) : Reply Round :=
  match s.watch.startCycle? with
  | none => (s, .error .noProbeBound)
  | some (w, key) =>
    let (w, round) := w.finishRound key
    ({ s with watch := w }, .ok round)

/-- Starts the background health loop, whose first tick is now; false if it runs already. -/
def startLoop (s : Service) : Service × Bool :=
  match s.watch.loop with
  | some _ => (s, false)
  | none => ({ s with watch := { s.watch with loop := some { tick := s.watch.now } } }, true)

/-- Ends the health loop, with the round that it has on its way. -/
def stopLoop (s : Service) : Service :=
  match s.watch.loop with
  | some { round := some key, .. } =>
    { s with watch := { s.watch.dropRound key with loop := none } }
  | _ => { s with watch := { s.watch with loop := none } }

/-! Sessions -/

/-- Starts a session for a target unless one is going on; its record before it goes on. -/
def startSession (s : Service) (target : String) : Reply SessionRecord :=
  if (s.watch.run? target).any (!·.isFinished) then (s, .error (.sessionActive target))
  else
    let session := Session.ofTarget s.config.sessionOptions target s.watch.clock
    let runs := s.watch.runs.filter (·.target != target) ++ [{ session := session }]
    ({ s with watch := { s.watch with runs } }, .ok session.record)

/-- Stops a target's session and waits for its end. -/
def stopSession (s : Service) (target : String) : Reply SessionState :=
  match s.watch.run? target with
  | none => (s, .error (.sessionNotFound target))
  | some _ =>
    let (w, state) := (s.watch.modifySession target Session.stop).awaitOutcome target Watch.horizon
    ({ s with watch := w }, .ok (state.getD .failed))

/-- The record of a target's session. -/
def session? (s : Service) (target : String) : Option SessionRecord :=
  (s.watch.run? target).map (·.shown)

/-- The records of all sessions, by target. -/
def sessions (s : Service) : List SessionRecord :=
  (s.watch.runs.map (·.shown)).mergeSort fun a b => decide (a.target ≤ b.target)

/-- Ends the health loop, stops all sessions that go on and waits for their end. -/
def shutdown (s : Service) : Service :=
  let w := s.stopLoop.watch.settle
  let live := (w.runs.filter (!·.isFinished)).map (·.target)
  let w := live.foldl (fun w target => w.modifySession target Session.stop) w
  let (w, _) := w.await (fun w => live.all fun target => (w.outcome? target).isSome) Watch.horizon
  { s with watch := w }

end Service
end ProxyWatch
