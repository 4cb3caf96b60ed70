import ProxyWatch.Checker.Round
import ProxyWatch.Event
import ProxyWatch.Number.Power
import ProxyWatch.Session.Run

/-!
The program at work, together with its surroundings: the registry, the probes on their way, the health loop and
the capture sessions share one clock. A step does one thing that is due.
-/
namespace ProxyWatch

/-- What happened, in order. -/
structure Journal where
  events : List (Nat × Event) := []
  probes : List ProbeCall := []
  captures : List (Nat × CaptureCall) := []

/-- The background loop that starts a round of probes at each tick. -/
structure HealthLoop where
  /-- The instant of the next round. -/
  tick : Nat
  /-- The round on its way. -/
  round : Option Nat := none
  deriving DecidableEq, Repr, Inhabited

/-- A tick that comes later than this many milliseconds was missed. -/
def HealthLoop.tolerance : Nat := 5

/-- The tick after one that came now: a period after it was due, or after now if it was missed. -/
def HealthLoop.following (tick now : Nat) (period : Duration) : Nat :=
  if tick + tolerance < now then Clock.timer now period else Clock.timer tick period

/-- The program at work. -/
structure Watch where
  now : Nat := 0
  /-- The reading of the calendar clock. -/
  clock : Timestamp
  files : FileTree := {}
  store : Store := {}
  checking : CheckOptions := {}
  /-- The failure limit in force. -/
  limit : Nat := 1
  /-- Rounds of probes, by key. -/
  rounds : List (Nat × Round) := []
  /-- The key of the next round. -/
  nextKey : Nat := 0
  loop : Option HealthLoop := none
  runs : List SessionRun := []
  replies : Replies := {}
  launcher : Launcher := .ofScripts [] {}
  /-- The launches so far, the latest first. -/
  launches : List Launch := []
  journal : Journal := {}

namespace Watch

/-- Notes events. -/
def note (w : Watch) (es : List Event) : Watch :=
  { w with journal := { w.journal with events := w.journal.events ++ es.map (w.now, ·) } }

/-- Notes calls to the launcher and to captures. -/
def noteCalls (w : Watch) (cs : List CaptureCall) : Watch :=
  let launches := cs.filterMap fun c => match c with
    | .launch l => some l
    | _ => none
  { w with
    launches := launches.reverse ++ w.launches
    journal := { w.journal with captures := w.journal.captures ++ cs.map (w.now, ·) } }

/-! Rounds of probes -/

def round? (w : Watch) (key : Nat) : Option Round := w.rounds.lookup key

/-- Forgets a round. -/
def dropRound (w : Watch) (key : Nat) : Watch :=
  { w with rounds := w.rounds.filter (·.1 != key) }

/-- All probes of a round have landed. -/
def isOver (w : Watch) (key : Nat) : Bool := (w.round? key).all Round.isOver

/-- Sends one probe. -/
def send (bound : Duration) (s : Watch × List Flight) (e : Endpoint) : Watch × List Flight :=
  let (w, flights) := s
  let (reply, replies) := w.replies.next e.url
  let call : ProbeCall :=
    { proxy := e.url, target := w.checking.probeUrl, timeout := w.checking.timeout }
  ({ w with replies, journal := { w.journal with probes := w.journal.probes ++ [call] } },
    flights ++ [.ofReply e.id w.now bound w.checking.timeout reply])

/-- Starts a round that probes endpoints; none if the bound for a probe is no span of time. -/
def startRound? (w : Watch) (es : List Endpoint) (dry : Bool) : Option (Watch × Nat) := do
  let bound ← if es.isEmpty then some .zero else w.checking.outerTimeout?
  let (w, flights) := es.foldl (send bound) (w, [])
  return ({ w with rounds := w.rounds ++ [(w.nextKey, { flights, dry })], nextKey := w.nextKey + 1 },
    w.nextKey)

/-- Starts a round over the enabled endpoints. -/
def startCycle? (w : Watch) : Option (Watch × Nat) := w.startRound? (w.store.registry.list true) false

/-- Applies an outcome to the registry and notes what it reports. -/
def applyOutcome (w : Watch) (id : String) (o : ProbeOutcome) : Watch × Option Applied :=
  match w.store.applyOutcome w.files w.limit id o with
  | .ok (store, files, a) => ({ w with store, files }.note a.events, some a)
  | .error _ => (w, none)

/-- Lands the first due probe of a round. -/
def land? (w : Watch) (key : Nat) (r : Round) : Option Watch :=
  (Round.landed? w.now r.flights).map fun (f, flights) =>
    let outcome := ProbeOutcome.ofResult w.clock f.result
    let (w, applied) := if r.dry then (w, none) else w.applyOutcome f.endpoint outcome
    let checks := Round.insertCheck { endpoint := f.endpoint, outcome, applied } r.checks
    { w with rounds := w.rounds.map fun x => if x.1 = key then (key, { r with flights, checks }) else x }

/-! Steps -/

/-- Lands the first probe that is due. -/
def probeStep? (w : Watch) : Option Watch := w.rounds.findSome? fun (key, r) => w.land? key r

/-- Ends the health loop's round once it is over, or starts one at a tick. -/
def loopStep? (w : Watch) : Option Watch :=
  match w.loop with
  | none => none
  | some l =>
    match l.round with
    | some key =>
      if w.isOver key then some { w.dropRound key with loop := some { l with round := none } } else none
    | none =>
      if l.tick ≤ w.now then
        some (match w.startCycle? with
          | some (w', key) =>
            let tick := HealthLoop.following l.tick w.now w.checking.interval
            { w' with loop := some { tick, round := some key } }
          | none => { w with loop := none })
      else none

/-- Lets one session go on. -/
def runStep? (w : Watch) (r : SessionRun) : Option Watch :=
  (r.step (w.launcher w.launches) w.now w.clock w.store.registry.entries).map fun (r', trace) =>
    let w := (w.note trace.events).noteCalls trace.calls
    { w with runs := w.runs.map fun x => if x.target = r.target then r' else x }

/-- Lets the first session go on that can. -/
def sessionStep? (w : Watch) : Option Watch := w.runs.findSome? w.runStep?

/-- Does one thing that is due; none if nothing is. -/
def step? (w : Watch) : Option Watch := w.probeStep? <|> w.loopStep? <|> w.sessionStep?

/-- A bound on the steps that are left at this instant. -/
def load (w : Watch) : Nat :=
  w.rounds.foldl (fun n r => n + r.2.flights.length) 0 + w.store.registry.entries.length + 4 +
    w.runs.foldl (fun n r => n + r.session.load) 0

/-- Does everything that is due, within a number of steps. -/
def settleWithin : Nat → Watch → Watch
  | 0, w => w
  | n + 1, w =>
    match w.step? with
    | some w' => settleWithin n w'
    | none => w

/-- Does everything that is due. -/
def settle (w : Watch) : Watch := settleWithin w.load w

/-- The next instant at which something falls due. -/
def next? (w : Watch) : Option Nat :=
  let ticks := match w.loop with
    | some { tick, round := none } => [tick]
    | _ => []
  ((w.rounds.flatMap (·.2.due) ++ ticks ++ w.runs.flatMap SessionRun.due).filter (w.now < ·)).min?

/-- Lets time pass from one instant to another, doing everything when it falls due. -/
def advanceFrom (now last : Nat) (w : Watch) : Watch :=
  let w := { w with now }.settle
  match w.next? with
  | some t =>
    if _h : now < t ∧ t ≤ last then advanceFrom t last w else { w with now := max now last }
  | none => { w with now := max now last }
termination_by last - now

/-- Lets a number of milliseconds pass. -/
def advance (w : Watch) (ms : Nat) : Watch := advanceFrom w.now (w.now + ms) w

/-- Lets time pass until a condition holds, at most up to an instant; whether it holds. -/
def awaitFrom (done : Watch → Bool) (now last : Nat) (w : Watch) : Watch × Bool :=
  let w := { w with now }.settle
  if done w then (w, true)
  else
    match w.next? with
    | some t =>
      if _h : now < t ∧ t ≤ last then awaitFrom done t last w else ({ w with now := max now last }, false)
    | none => ({ w with now := max now last }, false)
termination_by last - now

/-- Lets time pass until a condition holds, at most for some milliseconds. A condition that holds in the last
instant has held in time, unless no time is given. -/
def await (w : Watch) (done : Watch → Bool) (ms : Nat) : Watch × Bool :=
  if done w then (w.settle, true)
  else if ms = 0 then (w.settle, false)
  else awaitFrom done w.now (w.now + ms) w

/-- Longer than anything that is sure to end takes. -/
def horizon : Nat := pow2 64

/-- Waits for a round and takes it out. -/
def finishRound (w : Watch) (key : Nat) : Watch × Round :=
  let (w, _) := w.await (·.isOver key) horizon
  (w.dropRound key, (w.round? key).getD { flights := [] })

/-! Sessions -/

def run? (w : Watch) (target : String) : Option SessionRun := w.runs.find? (·.target = target)

/-- Changes the session of a target. -/
def modifySession (w : Watch) (target : String) (f : Session → Session) : Watch :=
  { w with runs := w.runs.map fun r =>
      if r.target = target then { r with session := f r.session } else r }

/-- The final state of a target's session, once it has one. -/
def outcome? (w : Watch) (target : String) : Option SessionState :=
  (w.run? target).bind (·.outcome?)

/-- Waits for the end of a target's session; its final state if it comes in time. -/
def awaitOutcome (w : Watch) (target : String) (ms : Nat) : Watch × Option SessionState :=
  let (w', done) := w.await (fun w => (w.outcome? target).isSome) ms
  (w', if done then w'.outcome? target else none)

end Watch
end ProxyWatch
