import ProxyWatch.Capture.Script
import ProxyWatch.Session

/-!
A session together with the launch or the capture that it holds.
-/
namespace ProxyWatch

/-- What a session holds of the world around it. -/
inductive Hold
  | nothing
  /-- A launch, and when it returns. -/
  | launch (script : CaptureScript) (returns : Option Nat)
  | capture (c : Capture)
  deriving DecidableEq, Repr, Inhabited

namespace Hold

/-- The result of a pending launch that has returned. -/
def launched? (h : Hold) (now : Nat) : Option (Except ProcessError Unit) :=
  match h with
  | launch script (some t) =>
    if t ≤ now then
      some (match script.launchError with
        | some detail => .error (.start detail)
        | none => .ok ())
    else none
  | _ => none

/-- How a held capture ended, once it has. -/
def exit? (h : Hold) (now : Nat) : Option (Except ProcessError ExitReport) :=
  match h with
  | capture c => c.exit? now
  | _ => none

/-- The instant at which what is held changes by itself. -/
def due? : Hold → Option Nat
  | nothing => none
  | launch _ returns => returns
  | capture c => c.ending

end Hold

/-- A call to the launcher or to a capture. -/
inductive CaptureCall
  | launch (l : Launch)
  | terminate (target : String)
  | kill (target : String)
  deriving DecidableEq, Repr, Inhabited

/-- Whom the call is about. -/
def CaptureCall.target : CaptureCall → String
  | launch l => l.target
  | terminate target => target
  | kill target => target

/-- A session with what it holds. -/
structure SessionRun where
  session : Session
  /-- The record as it is displayed. -/
  shown : SessionRecord := session.record
  hold : Hold := .nothing
  /-- The session has been set going. -/
  begun : Bool := true
  /-- A kill has returned. -/
  killed : Bool := false
  deriving DecidableEq, Repr, Inhabited

/-- What the acts of a session leave behind. -/
structure SessionTrace where
  events : List Event := []
  calls : List CaptureCall := []

namespace SessionRun

/-- The target that the session captures. -/
def target (r : SessionRun) : String := r.session.record.target

/-- The displayed state is a final one. -/
def isFinished (r : SessionRun) : Bool := r.shown.state.isTerminal

/-- The final state as a waiting caller sees it. -/
def outcome? (r : SessionRun) : Option SessionState :=
  r.shown.outcome? (r.session.phase = .vanished)

/-- What the session sees at an instant. -/
def view (r : SessionRun) (now : Nat) (clock : Timestamp) (endpoints : List Endpoint) :
    SessionView where
  now
  clock
  endpoints
  launched := r.hold.launched? now
  exit := r.hold.exit? now
  killed := r.killed

/-- Carries out one act. -/
def perform (launcher : Launch → CaptureScript) (now : Nat) (r : SessionRun × SessionTrace) :
    SessionAct → SessionRun × SessionTrace
  | .report e => (r.1, { r.2 with events := r.2.events ++ [e] })
  | .display record => ({ r.1 with shown := record }, r.2)
  | .launch proxy attempt =>
    let l : Launch := { target := r.1.target, proxy, attempt }
    let script := launcher l
    ({ r.1 with hold := .launch script (script.launchTime.map (now + ·)) },
      { r.2 with calls := r.2.calls ++ [.launch l] })
  | .abandon => ({ r.1 with hold := .nothing }, r.2)
  | .keep =>
    match r.1.hold with
    | .launch script _ => ({ r.1 with hold := .capture (.ofScript script now) }, r.2)
    | _ => r
  | .terminate =>
    match r.1.hold with
    | .capture c =>
      ({ r.1 with hold := .capture (c.terminate now) },
        { r.2 with calls := r.2.calls ++ [.terminate r.1.target] })
    | _ => r
  | .kill =>
    match r.1.hold with
    | .capture c =>
      ({ r.1 with hold := .capture (c.kill now), killed := true },
        { r.2 with calls := r.2.calls ++ [.kill r.1.target] })
    | _ => r
  | .release => ({ r.1 with hold := .nothing, killed := false }, r.2)

/-- Lets the session go on at an instant; none if it has to wait. -/
def step (r : SessionRun) (launcher : Launch → CaptureScript) (now : Nat) (clock : Timestamp)
    (endpoints : List Endpoint) : Option (SessionRun × SessionTrace) :=
  if r.begun then
    (r.session.step (r.view now clock endpoints)).map fun (s, acts) =>
      acts.foldl (perform launcher now) ({ r with session := s }, {})
  else none

/-- The instants at which something falls due for the session. -/
def due (r : SessionRun) : List Nat := [r.session.wake?, r.hold.due?].filterMap id

end SessionRun
end ProxyWatch
