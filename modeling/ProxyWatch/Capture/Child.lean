import ProxyWatch.Capture.Command
import ProxyWatch.Capture.Script
import ProxyWatch.Shell.Machine

/-!
Launching a capture command as a child process. The child leads a group of processes: signals go to the whole
group, and what is left of the group is killed once the child has ended.
-/
namespace ProxyWatch

/-- Why a command could not be spawned. -/
inductive SpawnError
  /-- A text handed to the system holds a NUL. -/
  | nul
  | file (e : FileError)
  deriving DecidableEq, Repr, Inhabited

def SpawnError.message : SpawnError → String
  | nul => "nul byte found in provided data"
  | file e => e.message

namespace ProgramPath

/-- The programs found by name. -/
def names : List String :=
  ["sh", "dash", "bash", "sleep", "true", "false", "echo", "printf", "cat", "test", "touch", "pwd", "kill"]

/-- Directories of the system. -/
def directories : List String :=
  ["/", "/bin", "/usr", "/usr/bin", "/etc", "/tmp", "/dev", "/proc", "/root", "/var"]

/-- Files of the system that are no programs. -/
def files : List String := ["/etc/passwd", "/etc/hosts", "/etc/group", "/dev/null"]

/-- The name of the program at a path of the system. -/
def systemName? (path : String) : Option String :=
  names.find? fun n => path == "/bin/" ++ n || path == "/usr/bin/" ++ n

/-- The name of the program that a path stands for, as it is looked up from the files' working directory.
Files that a caller wrote are no programs. -/
def lookUp (t : FileTree) (path : String) : Except FileError String :=
  if path.contains '/' then
    match systemName? path with
    | some n => .ok n
    | none =>
      if directories.contains path || files.contains path then .error .permissionDenied
      else match t.stat path with
        | .ok _ => .error .permissionDenied
        | .error e => .error e
  else if names.contains path then .ok path
  else if path == "." || path == ".." then .error .permissionDenied
  else .error .notFound

end ProgramPath

namespace CaptureCommand

/-- The variables of a child: the inherited ones, then the command's own, then the proxy's url. Without a
proxy the variables for its url are removed. -/
def environment (c : CaptureCommand) (inherited : List (String × String)) (proxy : Option String) :
    List (String × String) :=
  let set := fun (vs : List (String × String)) (v : String × String) => v :: vs.filter (·.1 != v.1)
  let own := c.env.foldl set inherited
  c.proxyEnv.foldl (fun vs name =>
    match proxy with
    | some url => set vs (name, url)
    | none => vs.filter (·.1 != name)) own

/-- All texts that are handed to the system. -/
def systemTexts (c : CaptureCommand) (target : String) (proxy : Option String) : List String :=
  c.program :: c.render target proxy ++
    (c.environment [] proxy).flatMap (fun v => [v.1, v.2]) ++ c.workingDir.toList

end CaptureCommand

/-- A child process with its group. -/
structure Child where
  machine : Shell.Machine
  /-- The number of the child. -/
  pid : Nat

namespace Child

/-- The variables that children inherit. -/
def inherited : List (String × String) := [("PATH", "/usr/bin:/bin")]

/-- Spawns the command for one attempt. The working directory is entered before the program is looked up. -/
def spawn (c : CaptureCommand) (target : String) (proxy : Option String) (files : FileTree) :
    Except SpawnError Child := do
  if (c.systemTexts target proxy).any (·.contains '\x00') then throw .nul
  let cwd ← match c.workingDir with
    | none => pure files.cwd
    | some dir =>
      match files.stat dir with
      | .ok .dir => (files.resolve dir).mapError .file
      | .ok (.file _) => throw (.file .notDirectory)
      | .error e => throw (.file e)
  let name ← (ProgramPath.lookUp { files with cwd } c.program).mapError .file
  let bindings := (c.environment inherited proxy).map fun v => (v.1.toList, v.2.toList)
  let args := (c.render target proxy).map String.toList
  let m : Shell.Machine := { files, nextPid := 1000 }
  let scope : Shell.Scope := { bindings, exported := bindings.map (·.1), self := m.nextPid }
  let work := (m.program? scope cwd .discard .discard name args).getD
    (.shell { todo := [.run (.simple [] ((name.toList :: args).map fun w => [.quoted w]) [])], scope, cwd })
  let (machine, pid) := m.spawn 0 [] work
  return { machine := machine.settle, pid }

/-- How the child ended, once it has. -/
def report? (c : Child) : Option ExitReport :=
  (c.machine.ending? c.pid).map fun
    | .code n => .ofCode n
    | .signal _ => .signalled

/-- Lets time pass until the child has ended, at most for some milliseconds. -/
def awaitEnd (c : Child) (ms : Nat) : Child :=
  { c with machine := c.machine.await (fun m => (m.ending? c.pid).isSome) ms }

/-- Kills what is left of the group. -/
def sweep (c : Child) : Child :=
  { c with machine := (c.machine.signalAll Shell.killSignal).settle }

/-- Waits for the end and clears the group away. -/
def wait (c : Child) (ms : Nat) : Child :=
  let c := c.awaitEnd ms
  if c.report?.isSome then c.sweep else c

/-- Asks the group to end. -/
def terminate (c : Child) : Child :=
  { c with machine := (c.machine.signalAll Shell.termSignal).settle }

/-- The process runs. -/
def isLive (c : Child) (pid : Nat) : Bool := c.machine.isLive pid

end Child

/-- Longer than a capture is followed: a year in milliseconds. -/
def Child.horizon : Nat := 365 * Clock.day

/-- The behaviour of a command as a capture, and the files after it. The end comes a millisecond after what the
program does last, so that even a command without a pause is seen to run before it is seen to end. -/
def CaptureCommand.behaviour (c : CaptureCommand) (l : Launch) (files : FileTree) :
    CaptureScript × FileTree :=
  match Child.spawn c l.target l.proxy files with
  | .error e => ({ launchError := some (c.program ++ ": " ++ e.message) }, files)
  | .ok child =>
    let child := child.wait Child.horizon
    match child.report? with
    | some r => ({ lifetime := some (child.machine.now + 1), code := r.code }, child.machine.files)
    | none => ({}, child.machine.files)

end ProxyWatch
