import ProxyWatch.Duration

/-!
How capture processes end, and how starting or stopping one fails.
-/
namespace ProxyWatch

/-- How a process ended; the code is absent when a signal ended it. -/
structure ExitReport where
  code : Option Int
  success : Bool
  deriving DecidableEq, Repr, Inhabited

namespace ExitReport

/-- The report for an exit code. -/
def ofCode (code : Int) : ExitReport := ⟨some code, code == 0⟩

/-- The report for an end by a signal. -/
def signalled : ExitReport := ⟨none, false⟩

def text (r : ExitReport) : String :=
  match r.code with
  | some code => "exit code " ++ Decimal.intText code
  | none => "terminated by signal"

end ExitReport

/-- Why a capture process could not be started, kept running or stopped. -/
inductive ProcessError
  | start (detail : String)
  | startTimeout (after : Duration)
  | earlyExit (report : ExitReport)
  | crash (report : ExitReport)
  | signal (detail : String)
  deriving DecidableEq, Repr, Inhabited

def ProcessError.message : ProcessError → String
  | start d => "failed to start capture process: " ++ d
  | startTimeout after => "capture process did not confirm start within " ++ after.text
  | earlyExit r => "capture process exited during startup: " ++ r.text
  | crash r => "capture process crashed: " ++ r.text
  | signal d => "capture process signal failed: " ++ d

end ProxyWatch
