import ProxyWatch.Capture.Process
import ProxyWatch.Clock
import ProxyWatch.Selection
import ProxyWatch.Session.Options
import ProxyWatch.Session.Record

/-!
A capture session as a state machine. Each attempt selects a route anew, launches a capture and waits until it
is confirmed; a capture that fails is tried again until the retries are spent. A request to stop ends the
session from any phase. Of several things due at one instant the request to stop counts first, then what the
capture did, then the clock.
-/
namespace ProxyWatch

/-- What a session waits for. -/
inductive Phase
  /-- To be run at all. -/
  | fresh
  /-- A launch, at most until the deadline. -/
  | launching (deadline : Nat)
  /-- A launched capture to live up to an instant. -/
  | confirming (confirmed : Nat)
  /-- The end of a confirmed capture. -/
  | running
  /-- The end of a capture that was asked to end, at most until the deadline. -/
  | ending (deadline : Nat)
  /-- The end of a killed capture. -/
  | killing
  /-- The time of the next attempt. -/
  | resting (wake : Nat)
  /-- Nothing; the session ended. -/
  | over
  /-- Nothing; the session broke off without an end. -/
  | vanished
  deriving DecidableEq, Repr, Inhabited

/-- What a session does to the world around it. -/
inductive SessionAct
  | report (e : Event)
  /-- Let whoever holds the session see a record. -/
  | display (r : SessionRecord)
  /-- Launch a capture through a proxy, or directly. -/
  | launch (proxy : Option String) (attempt : Nat)
  /-- Give up a launch that has not returned. -/
  | abandon
  /-- Keep the capture that a launch returned. -/
  | keep
  /-- Ask the capture to end. -/
  | terminate
  | kill
  /-- Let go of the capture. -/
  | release
  deriving DecidableEq, Repr, Inhabited

/-- What a session sees at an instant. -/
structure SessionView where
  now : Nat
  clock : Timestamp
  /-- The registry's endpoints. -/
  endpoints : List Endpoint
  /-- The result of the pending launch, once it has returned. -/
  launched : Option (Except ProcessError Unit) := none
  /-- How the capture ended, once it has. -/
  exit : Option (Except ProcessError ExitReport) := none
  /-- The kill has returned. -/
  killed : Bool := false

/-- A capture session. -/
structure Session where
  options : SessionOptions
  record : SessionRecord
  /-- A state has been reported. -/
  announced : Bool := false
  retries : Nat := 0
  /-- A stop is requested. -/
  stopping : Bool := false
  phase : Phase := .fresh
  deriving DecidableEq, Repr, Inhabited

namespace Session

/-- A session that has not begun. -/
def ofTarget (options : SessionOptions) (target : String) (clock : Timestamp) : Session :=
  { options, record := .fresh target clock }

/-- Requests a stop. -/
def stop (s : Session) : Session := { s with stopping := true }

/-- Breaks the session off. -/
def vanish (s : Session) : Session := { s with phase := .vanished }

/-- A session after some acts. -/
abbrev Reaction := Session × List SessionAct

/-- The acts of a reaction follow others. -/
def Reaction.after (acts : List SessionAct) (r : Reaction) : Reaction := (r.1, acts ++ r.2)

/-- Goes into a state, reports it and displays the record; the latest failure is told with the states that
follow one. -/
def enter (s : Session) (clock : Timestamp) (next : SessionState) : Reaction :=
  let record := { s.record with state := next, changed := clock }
  let previous := if s.announced then some s.record.state else none
  let error := if next = .retrying ∨ next = .failed then record.error else none
  ({ s with record, announced := true },
    [.report (.sessionChanged record.target previous next record.attempt record.route error), .display record])

/-- Ends in a final state. -/
def finish (s : Session) (clock : Timestamp) (last : SessionState) : Reaction :=
  let (s, acts) := s.enter clock last
  ({ s with phase := .over }, acts)

/-- Selects a route and launches a capture through it; without a route the session fails. -/
def begin (s : Session) (v : SessionView) : Reaction :=
  let attempt := s.record.attempt + 1
  match Selection.select v.endpoints s.options.fallback with
  | .error e =>
    let record := { s.record with attempt, route := none, error := some e.message }
    let (s, acts) := { s with record }.enter v.clock .starting
    (s.finish v.clock .failed).after acts
  | .ok choice =>
    let record := { s.record with attempt, route := some choice.route }
    let (s, acts) := { s with record }.enter v.clock .starting
    ({ s with phase := .launching (Clock.deadline v.now s.options.startTimeout) },
      acts ++ [.launch choice.proxyUrl attempt])

/-- Counts a failed attempt, and rests before the next one or fails for good. -/
def fail (s : Session) (v : SessionView) (e : ProcessError) : Reaction :=
  let record := { s.record with error := some e.message }
  let (s, acts) := { s with record, retries := s.retries + 1 }.enter v.clock .retrying
  match s.options.retry.decide s.retries with
  | .after d => ({ s with phase := .resting (Clock.timer v.now d) }, acts)
  | .spent => (s.finish v.clock .failed).after acts
  | .noDelay => (s.vanish, acts)

/-- Asks the capture to end and waits for it, at most for the grace period. -/
def shutDown (s : Session) (v : SessionView) : Reaction :=
  ({ s with phase := .ending (Clock.timer v.now s.options.stopGrace) }, [.terminate])

/-- The end of a launch. -/
def launched (s : Session) (v : SessionView) (deadline : Nat) : Except ProcessError Unit → Reaction
  | .ok _ =>
    let confirmed := min (Clock.deadline v.now s.options.startConfirm) deadline
    ({ s with phase := .confirming confirmed }, [.keep])
  | .error e => s.fail v e

/-- The end of a capture before it was confirmed: a failure, whatever its exit code. -/
def exitedEarly (s : Session) (v : SessionView) : Except ProcessError ExitReport → Reaction
  | .ok r => (s.fail v (.earlyExit r)).after [.release]
  | .error e => (s.fail v e).after [.release]

/-- The end of a confirmed capture: success ends the session, all else is a failure. -/
def exited (s : Session) (v : SessionView) : Except ProcessError ExitReport → Reaction
  | .ok r =>
    if r.success then (s.finish v.clock .stopped).after [.release]
    else (s.fail v (.crash r)).after [.release]
  | .error e => (s.fail v e).after [.release]

/-- Confirms the capture. -/
def confirm (s : Session) (v : SessionView) : Reaction :=
  let (s, acts) := { s with record := { s.record with error := none } }.enter v.clock .running
  ({ s with phase := .running }, acts)

/-- What the session does next at an instant; none if it has to wait. -/
def step (s : Session) (v : SessionView) : Option Reaction :=
  match s.phase with
  | .fresh => some (if s.stopping then s.finish v.clock .stopped else s.begin v)
  | .launching deadline =>
    if s.stopping then some ((s.finish v.clock .stopped).after [.abandon])
    else match v.launched with
      | some result => some (s.launched v deadline result)
      | none =>
        if deadline ≤ v.now then
          some ((s.fail v (.startTimeout s.options.startTimeout)).after [.abandon])
        else none
  | .confirming confirmed =>
    if s.stopping then some (s.shutDown v)
    else match v.exit with
      | some exit => some (s.exitedEarly v exit)
      | none => if confirmed ≤ v.now then some (s.confirm v) else none
  | .running =>
    if s.stopping then some (s.shutDown v) else v.exit.map (s.exited v)
  | .ending deadline =>
    match v.exit with
    | some (.ok _) => some ((s.finish v.clock .stopped).after [.release])
    | some (.error _) => some ({ s with phase := .killing }, [.kill])
    | none => if deadline ≤ v.now then some ({ s with phase := .killing }, [.kill]) else none
  | .killing => if v.killed then some ((s.finish v.clock .stopped).after [.release]) else none
  | .resting wake =>
    if s.stopping then some (s.finish v.clock .stopped)
    else if wake ≤ v.now then some (s.begin v)
    else none
  | .over => none
  | .vanished => none

/-- The instant at which the session goes on by itself. -/
def wake? (s : Session) : Option Nat :=
  match s.phase with
  | .launching t => some t
  | .confirming t => some t
  | .ending t => some t
  | .resting t => some t
  | _ => none

/-- How far a phase is from the end of its attempt. -/
def Phase.rank : Phase → Nat
  | .resting _ => 7
  | .fresh => 6
  | .launching _ => 5
  | .confirming _ => 4
  | .running => 3
  | .ending _ => 2
  | .killing => 1
  | .over => 0
  | .vanished => 0

/-- A bound on the steps that the session can still make. -/
def load (s : Session) : Nat := Phase.rank s.phase + 8 * (s.options.retry.maxRetries + 1 - s.retries)

end Session
end ProxyWatch
