import ProxyWatch.FileTree
import ProxyWatch.Shell.Expansion
import ProxyWatch.Shell.Script

/-!
Processes that run shell scripts, and how signals act on them.
-/
namespace ProxyWatch.Shell

/-- The numbers of signals by name. -/
def signals : List (String × Nat) :=
  [("EXIT", 0), ("HUP", 1), ("INT", 2), ("QUIT", 3), ("ILL", 4), ("TRAP", 5), ("ABRT", 6), ("BUS", 7),
    ("FPE", 8), ("KILL", 9), ("USR1", 10), ("SEGV", 11), ("USR2", 12), ("PIPE", 13), ("ALRM", 14),
    ("TERM", 15), ("STKFLT", 16), ("CHLD", 17), ("CONT", 18), ("STOP", 19), ("TSTP", 20), ("TTIN", 21),
    ("TTOU", 22), ("URG", 23), ("XCPU", 24), ("XFSZ", 25), ("VTALRM", 26), ("PROF", 27), ("WINCH", 28),
    ("POLL", 29), ("PWR", 30), ("SYS", 31)]

/-- The signal that forces a process to end. -/
def killSignal : Nat := 9

/-- The signal that asks a process to end. -/
def termSignal : Nat := 15

/-- The signal with a name or a number. -/
def signal? (cs : List Char) : Option Nat :=
  if !cs.isEmpty && cs.all Char.isDigit then some (Decimal.value cs)
  else
    let name := String.ofList cs
    signals.lookup (if name.startsWith "SIG" then String.ofList (cs.drop 3) else name)

/-- The signal does not end a process that takes no care of it. -/
def isHarmless (n : Nat) : Bool := n == 0 || n == 17 || n == 18 || n == 23 || n == 28

/-- How a process ended. -/
inductive Ending
  | code (n : Nat)
  | signal (n : Nat)
  deriving DecidableEq, Repr, Inhabited

/-- The exit status that a shell sees. -/
def Ending.status : Ending → Nat
  | code n => n % 256
  | signal n => 128 + n

/-- Where output goes. -/
inductive Sink
  | discard
  | file (p : Place)
  deriving DecidableEq, Repr, Inhabited

/-- What a shell has yet to do. -/
inductive Task
  | run (c : Command)
  /-- Go on if the last status is zero. -/
  | andThen (c : Command)
  | orElse (c : Command)
  | invert
  | choose (yes no : Command)
  /-- Decide by the last status whether the body runs once more. -/
  | again (untilTrue : Bool) (test body : Command)
  | each (name : List Char) (fields : List (List Char)) (body : Command)
  | restore (out err : Sink)
  | status (n : Nat)
  /-- Wait for a process in the foreground. -/
  | foreground (pid : Nat)
  | awaitAll
  | await (pid : Nat)
  | exit
  deriving Repr, Inhabited

/-- A shell at work. -/
structure ShellState where
  todo : List Task
  scope : Scope
  cwd : Place
  out : Sink := .discard
  err : Sink := .discard
  /-- Scripts to run when a signal comes. -/
  traps : List (Nat × List Char) := []
  /-- Signals that came and whose scripts have not run yet. -/
  pending : List Nat := []
  deriving Repr, Inhabited

/-- What a process does. -/
inductive Work
  | sleeping (wake : Nat)
  | shell (s : ShellState)
  deriving Repr, Inhabited

/-- A process. -/
structure Process where
  pid : Nat
  parent : Nat
  ended : Option Ending := none
  /-- Signals that it ignores. -/
  ignored : List Nat := []
  work : Work
  deriving Repr, Inhabited

namespace Process

/-- A signal comes. -/
def receive (p : Process) (n : Nat) : Process :=
  if p.ended.isSome then p
  else if n == killSignal then { p with ended := some (.signal n) }
  else if p.ignored.contains n then p
  else
    match p.work with
    | .shell s =>
      if (s.traps.lookup n).isSome then { p with work := .shell { s with pending := s.pending ++ [n] } }
      else if isHarmless n then p
      else { p with ended := some (.signal n) }
    | .sleeping _ => if isHarmless n then p else { p with ended := some (.signal n) }

end Process

/-- The shell that runs a script; a malformed script only reports its fault. -/
def ShellState.ofScript (script : List Char) (scope : Scope) (cwd : Place) (out err : Sink) : ShellState :=
  match Script.parse? script with
  | some c => { todo := [.run c], scope, cwd, out, err }
  | none => { todo := [.status 2, .exit], scope, cwd, out, err }

end ProxyWatch.Shell
