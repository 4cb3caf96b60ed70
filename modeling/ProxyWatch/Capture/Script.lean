import ProxyWatch.Capture.Process
import ProxyWatch.Clock

/-!
The behaviour of captures over time: when a launch returns and with what, when the capture ends by itself, and
how it takes the request to end and a kill. A launcher decides the behaviour of each launch from the launches
before it.
-/
namespace ProxyWatch

/-- How a capture takes the request to end. -/
inductive TerminationScript
  /-- A signal ends it after some milliseconds. -/
  | obeyed (after : Nat)
  | ignored
  /-- The request itself fails. -/
  | refused (detail : String)
  deriving DecidableEq, Repr, Inhabited

/-- The behaviour of one capture. Times are milliseconds. -/
structure CaptureScript where
  /-- The time until the launch returns; none if it never does. -/
  launchTime : Option Nat := some 0
  /-- Why the launch fails. -/
  launchError : Option String := none
  /-- The time from the launch to the end; none if the capture runs on. -/
  lifetime : Option Nat := none
  /-- The exit code at that end; none for an end by a signal. -/
  code : Option Int := none
  /-- Why waiting for the end fails once it has come. -/
  waitError : Option String := none
  termination : TerminationScript := .obeyed 0
  /-- Why a kill fails. -/
  killError : Option String := none
  deriving DecidableEq, Repr, Inhabited

/-- A launched capture. -/
structure Capture where
  script : CaptureScript
  /-- The instant at which it ends, as things stand. -/
  ending : Option Nat
  /-- How it ends then. -/
  report : ExitReport
  deriving DecidableEq, Repr, Inhabited

namespace Capture

/-- The capture of a launch that returned at an instant. -/
def ofScript (script : CaptureScript) (launched : Nat) : Capture where
  script
  ending := script.lifetime.map (launched + ·)
  report := match script.code with
    | some code => .ofCode code
    | none => .signalled

/-- What waiting for the end says, once the end has come. -/
def exit? (c : Capture) (now : Nat) : Option (Except ProcessError ExitReport) :=
  match c.ending with
  | some t =>
    if t ≤ now then
      some (match c.script.waitError with
        | some detail => .error (.signal detail)
        | none => .ok c.report)
    else none
  | none => none

/-- A signal ends the capture at an instant, unless it ends before. -/
def signalAt (c : Capture) (t : Nat) : Capture :=
  match c.ending with
  | some t' => if t' ≤ t then c else { c with ending := some t, report := .signalled }
  | none => { c with ending := some t, report := .signalled }

/-- The request to end. -/
def terminate (c : Capture) (now : Nat) : Capture :=
  match c.script.termination with
  | .obeyed after => c.signalAt (now + after)
  | .ignored => c
  | .refused _ => c

/-- The kill, which returns at once. -/
def kill (c : Capture) (now : Nat) : Capture :=
  match c.script.killError with
  | some _ => c
  | none => c.signalAt now

end Capture

/-- A request to launch a capture. -/
structure Launch where
  target : String
  proxy : Option String
  attempt : Nat
  deriving DecidableEq, Repr, Inhabited

/-- Decides how a launch behaves, given the launches before it, the latest first. -/
abbrev Launcher := List Launch → Launch → CaptureScript

/-- The launcher that plays scripts in order and then one for all further launches. -/
def Launcher.ofScripts (scripts : List CaptureScript) (further : CaptureScript) : Launcher :=
  fun before _ => scripts.getD before.length further

end ProxyWatch
