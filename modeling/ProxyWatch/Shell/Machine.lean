import ProxyWatch.Shell.Output
import ProxyWatch.Shell.Process

/-!
Shell processes that run side by side on a clock of milliseconds and share files. A step lets one process go on;
time passes only when all of them wait.
-/
namespace ProxyWatch.Shell

/-- Processes with the files they share. -/
structure Machine where
  now : Nat := 0
  processes : List Process := []
  /-- The number of the next process. -/
  nextPid : Nat := 1
  files : FileTree := {}
  deriving Inhabited

namespace Machine

def process? (m : Machine) (pid : Nat) : Option Process := m.processes.find? (·.pid == pid)

/-- The process runs. -/
def isLive (m : Machine) (pid : Nat) : Bool := (m.process? pid).any (·.ended.isNone)

/-- How the process ended, once it has. -/
def ending? (m : Machine) (pid : Nat) : Option Ending := (m.process? pid).bind (·.ended)

def modify (m : Machine) (pid : Nat) (f : Process → Process) : Machine :=
  { m with processes := m.processes.map fun p => if p.pid == pid then f p else p }

def setShell (m : Machine) (pid : Nat) (s : ShellState) : Machine :=
  m.modify pid ({ · with work := .shell s })

/-- Ends a process. -/
def finish (m : Machine) (pid : Nat) (e : Ending) : Machine := m.modify pid ({ · with ended := some e })

/-- Sends a signal to all processes. -/
def signalAll (m : Machine) (n : Nat) : Machine :=
  { m with processes := m.processes.map (·.receive n) }

/-- Starts a process; its number. -/
def spawn (m : Machine) (parent : Nat) (ignored : List Nat) (work : Work) : Machine × Nat :=
  ({ m with
      processes := m.processes ++ [{ pid := m.nextPid, parent, ignored, work }]
      nextPid := m.nextPid + 1 }, m.nextPid)

/-- Runs an operation on the files from a working directory. -/
def within {α : Type} (m : Machine) (cwd : Place) (f : FileTree → α) : α := f { m.files with cwd }

/-- Appends bytes to where output goes. -/
def emit (m : Machine) (s : Sink) (bs : List UInt8) : Machine :=
  match s with
  | .discard => m
  | .file p =>
    let before := match m.files.at? p with
      | some (.file b) => b.data.toList
      | _ => []
    { m with files := m.files.put p (.file ⟨(before ++ bs).toArray⟩) }

/-- Opens a file for output; none if it cannot be written. -/
def openFile? (m : Machine) (cwd : Place) (path : List Char) (append : Bool) : Option (Machine × Sink) :=
  let name := String.ofList path
  if name = "/dev/null" then some (m, .discard)
  else
    let kept := if append then ((m.within cwd (·.read name)).toOption).getD .empty else .empty
    match m.within cwd fun t => (t.write name kept, t.resolve name) with
    | (.ok t, .ok place) => some ({ m with files := { t with cwd := m.files.cwd } }, .file place)
    | _ => none

/-- Carries out a redirection of where output and messages go; none if it fails. -/
def redirect? (s : ShellState) (x : Machine × Sink × Sink) (r : Redirect) :
    Option (Machine × Sink × Sink) := do
  let (m, out, err) := x
  let target ← s.scope.expandText? r.target
  let (m, sink) ← match r.kind with
    | .input =>
      if target == "/dev/null".toList || m.within s.cwd (·.pathExists (String.ofList target)) then
        some (m, .discard)
      else none
    | .duplicate => some (m, if target == ['1'] then out else if target == ['2'] then err else .discard)
    | .truncate => m.openFile? s.cwd target false
    | .append => m.openFile? s.cwd target true
  return match r.kind, r.fd with
    | .input, _ => (m, out, err)
    | _, 1 => (m, sink, err)
    | _, 2 => (m, out, sink)
    | _, _ => (m, out, err)

/-! Commands that the shell knows -/

/-- Milliseconds of a time in seconds; none for a text that is no time. -/
def sleepTime? (cs : List Char) : Option Nat :=
  let (whole, rest) := cs.span Char.isDigit
  let fraction := match rest with
    | '.' :: ds => some ds
    | [] => some []
    | ['s'] => some []
    | _ => none
  match fraction with
  | some ds =>
    if ds.all Char.isDigit && !(whole.isEmpty && ds.isEmpty) then
      some (Decimal.value whole * 1000 + Decimal.value ((ds ++ ['0', '0', '0']).take 3))
    else none
  | none => none

/-- The size of a file; none if there is no file. -/
def fileSize? (m : Machine) (cwd : Place) (path : List Char) : Option Nat :=
  match m.within cwd (·.read (String.ofList path)) with
  | .ok b => some b.size
  | .error _ => none

/-- The truth of a test; none if it is malformed. -/
def test? (m : Machine) (cwd : Place) : List (List Char) → Option Bool
  | [] => some false
  | [a] => some !a.isEmpty
  | ['!'] :: rest => (test? m cwd rest).map (!·)
  | [op, a] =>
    match String.ofList op with
    | "-n" => some !a.isEmpty
    | "-z" => some a.isEmpty
    | "-e" => some (m.within cwd (·.pathExists (String.ofList a)))
    | "-d" => some (m.within cwd (·.isDir (String.ofList a)))
    | "-f" => some (m.fileSize? cwd a).isSome
    | "-r" => some (m.within cwd (·.pathExists (String.ofList a)))
    | "-s" => some ((m.fileSize? cwd a).any (· > 0))
    | _ => none
  | [a, op, b] =>
    let compare := fun (f : Int → Int → Bool) => do
      return f (← Arithmetic.integer? a) (← Arithmetic.integer? b)
    match String.ofList op with
    | "=" => some (a == b)
    | "!=" => some (a != b)
    | "-eq" => compare (· == ·)
    | "-ne" => compare (· != ·)
    | "-lt" => compare fun x y => decide (x < y)
    | "-le" => compare fun x y => decide (x ≤ y)
    | "-gt" => compare fun x y => decide (y < x)
    | "-ge" => compare fun x y => decide (y ≤ x)
    | _ => none
  | _ => none

def testStatus (m : Machine) (cwd : Place) (args : List (List Char)) : Nat :=
  match test? m cwd args with
  | some true => 0
  | some false => 1
  | none => 2

/-- Sets what a shell does when signals come: an empty script ignores them, a hyphen resets them. -/
def trap (p : Process) (s : ShellState) (action : List Char) (names : List (List Char)) :
    Process × ShellState :=
  let ns := names.filterMap signal?
  let others := s.traps.filter fun t => !ns.contains t.1
  let ignored := p.ignored.filter (!ns.contains ·)
  if action.isEmpty then ({ p with ignored := ignored ++ ns }, { s with traps := others })
  else if action == ['-'] then ({ p with ignored }, { s with traps := others })
  else ({ p with ignored }, { s with traps := others ++ ns.map (·, action) })

/-- The signal and the processes that a kill command names. -/
def killTargets? : List (List Char) → Option (Nat × List (List Char))
  | ['-', 's'] :: name :: rest => (signal? name).map (·, rest)
  | ('-' :: name) :: rest => (signal? name).map (·, rest)
  | rest => some (termSignal, rest)

/-- Sends a signal to a process; zero and negative numbers name all processes. -/
def sendTo (n : Nat) (x : Machine × Bool) (target : List Char) : Machine × Bool :=
  match Arithmetic.integer? target with
  | some (.ofNat (k + 1)) =>
    if (x.1.process? (k + 1)).isSome then (x.1.modify (k + 1) (·.receive n), x.2) else (x.1, false)
  | some _ => (x.1.signalAll n, x.2)
  | none => (x.1, false)

/-- The shell that the arguments of a shell program ask for. -/
def shellOf (m : Machine) (args : List (List Char)) (scope : Scope) (cwd : Place) (out err : Sink) :
    ShellState :=
  let script := fun (text : List Char) (zero : List Char) (rest : List (List Char)) =>
    ShellState.ofScript text { scope with zero, args := rest, status := 0, lastBackground := none } cwd out err
  match args with
  | ['-', 'c'] :: text :: zero :: rest => script text zero rest
  | [['-', 'c'], text] => script text "sh".toList []
  | path :: rest =>
    match m.within cwd (·.readText (String.ofList path)) with
    | .ok text => script text.toList path rest
    | .error _ => { todo := [.status 2, .exit], scope, cwd, out, err }
  | [] => script [] "sh".toList []

/-- What a program does; none if there is no such program. -/
def program? (m : Machine) (scope : Scope) (cwd : Place) (out err : Sink) (name : String)
    (args : List (List Char)) : Option Work :=
  match name with
  | "sleep" =>
    match args.head?.bind sleepTime? with
    | some ms => some (.sleeping (m.now + ms))
    | none => some (.shell { todo := [.status 1, .exit], scope, cwd, out, err })
  | "sh" => some (.shell (m.shellOf args scope.inherited cwd out err))
  | "dash" => some (.shell (m.shellOf args scope.inherited cwd out err))
  | "bash" => some (.shell (m.shellOf args scope.inherited cwd out err))
  | _ => none

/-- A shell with the status of its last command. -/
def done (s : ShellState) (status : Nat) : ShellState := { s with scope := { s.scope with status } }

/-- Runs a command in a new process; the shell waits for it. -/
def runProgram (m : Machine) (p : Process) (s : ShellState) (work : Work) : Machine :=
  let (m, pid) := m.spawn p.pid p.ignored work
  let work := match work with
    | .shell c => .shell { c with scope := { c.scope with self := pid } }
    | w => w
  (m.modify pid ({ · with work })).setShell p.pid { s with todo := .foreground pid :: s.todo }

/-- The tasks from the innermost loop on. -/
def afterLoop : List Task → List Task
  | .again untilTrue test body :: rest => .again untilTrue test body :: rest
  | .each name fields body :: rest => .each name fields body :: rest
  | _ :: rest => afterLoop rest
  | [] => []

/-- The tasks that begin the next turn of a loop. -/
def nextTurn : List Task → List Task
  | .again untilTrue test body :: rest => .run test :: .again untilTrue test body :: rest
  | tasks => tasks

/-- Runs a command with its fields expanded and its output opened. -/
def runCommand (m : Machine) (p : Process) (s : ShellState) (scope : Scope) (out err : Sink)
    (name : List Char) (args : List (List Char)) : Machine :=
  let settled := fun (m : Machine) (status : Nat) => m.setShell p.pid (done s status)
  match String.ofList name with
  | ":" => settled m 0
  | "true" => settled m 0
  | "false" => settled m 1
  | "exit" =>
    let status := match args with
      | [] => s.scope.status
      | a :: _ => if a.all Char.isDigit then Decimal.value a else 2
    m.setShell p.pid { done s status with todo := [.exit] }
  | "echo" =>
    let (newline, words) := match args with
      | ['-', 'n'] :: rest => (([] : List UInt8), rest)
      | _ => ([10], args)
    settled (m.emit out (Output.escaped (Scope.spaced words) ++ newline)) 0
  | "printf" =>
    settled (m.emit out (Output.formatted (args.length + 1) (args.headD []) args.tail)) 0
  | "pwd" => settled (m.emit out (Output.bytes (("/" ++ "/".intercalate s.cwd).toList) ++ [10])) 0
  | "cd" =>
    let path := String.ofList (args.headD ['/'])
    match m.within s.cwd fun t => (t.isDir path, t.resolve path) with
    | (true, .ok place) => m.setShell p.pid (done { s with cwd := place } 0)
    | _ => settled m 2
  | "test" => settled m (m.testStatus s.cwd args)
  | "[" =>
    if args.getLast? = some [']'] then settled m (m.testStatus s.cwd args.dropLast) else settled m 2
  | "trap" =>
    match args with
    | action :: names =>
      let (p, s) := trap p s action names
      (m.modify p.pid fun _ => p).setShell p.pid (done s 0)
    | [] => settled m 0
  | "kill" =>
    match killTargets? args with
    | some (n, targets) =>
      let (m', sound) := targets.foldl (sendTo n) (settled m 0, true)
      if sound then m' else settled m 1
    | none => settled m 2
  | "wait" =>
    let tasks := match args with
      | [] => [.awaitAll]
      | _ => args.filterMap fun a => (Arithmetic.integer? a).map fun n => .await n.toNat
    m.setShell p.pid { s with todo := tasks ++ s.todo }
  | "shift" => m.setShell p.pid (done { s with scope := { s.scope with args := s.scope.args.drop 1 } } 0)
  | "export" =>
    let scope := args.foldl (fun (c : Scope) a =>
      match a.span (· != '=') with
      | (name, _ :: value) => (c.set name value).share name
      | _ => c.share a) s.scope
    m.setShell p.pid (done { s with scope } 0)
  | "unset" => m.setShell p.pid (done { s with scope := args.foldl Scope.unset s.scope } 0)
  | "set" =>
    match args with
    | ['-', '-'] :: args => m.setShell p.pid (done { s with scope := { s.scope with args } } 0)
    | _ => settled m 0
  | "break" => m.setShell p.pid (done { s with todo := (afterLoop s.todo).tail } 0)
  | "continue" => m.setShell p.pid (done { s with todo := nextTurn (afterLoop s.todo) } 0)
  | "." =>
    match m.within s.cwd (·.readText (String.ofList (args.headD []))) with
    | .ok text =>
      match Script.parse? text.toList with
      | some c => m.setShell p.pid { s with todo := .run c :: s.todo }
      | none => m.setShell p.pid { done s 2 with todo := [.exit] }
    | .error _ => m.setShell p.pid { done s 2 with todo := [.exit] }
  | "read" => settled m 1
  | "eval" =>
    match Script.parse? (Scope.spaced args) with
    | some c => m.setShell p.pid { s with todo := .run c :: s.todo }
    | none => settled m 2
  | "touch" =>
    let m := args.foldl (fun (m : Machine) a => ((m.openFile? s.cwd a true).map (·.1)).getD m) m
    settled m 0
  | "cat" =>
    let contents := args.map fun a => m.within s.cwd (·.read (String.ofList a))
    let bytes := contents.flatMap fun
      | .ok b => b.data.toList
      | .error _ => []
    settled (m.emit out bytes) (if contents.all (·.toOption.isSome) then 0 else 1)
  | "exec" =>
    match args with
    | [] => m.setShell p.pid (done { s with out, err } 0)
    | name :: rest =>
      match m.program? scope s.cwd out err (String.ofList name) rest with
      | some work => m.modify p.pid ({ · with work })
      | none => m.setShell p.pid { done s 127 with todo := [.exit] }
  | program =>
    match m.program? scope s.cwd out err program args with
    | some work => m.runProgram p s work
    | none => settled m 127

/-- Runs a simple command. -/
def runSimple (m : Machine) (p : Process) (s : ShellState) (assignments : List (List Char × Word))
    (words : List Word) (redirects : List Redirect) : Machine :=
  let assign := fun (c : Scope) (a : List Char × Word) => (c.expandText? a.2).map (c.set a.1)
  let names := assignments.map (·.1)
  match s.scope.expandAll? words, redirects.foldlM (redirect? s) (m, s.out, s.err),
    assignments.foldlM assign s.scope with
  | some fields, some (m, out, err), some scope =>
    match fields with
    | [] => m.setShell p.pid (done { s with scope } 0)
    | name :: args =>
      m.runCommand p s { scope with exported := names ++ scope.exported } out err name args
  | _, _, _ => m.setShell p.pid (done s 2)

/-! Steps -/

/-- Starts a process that runs a command of a shell. -/
def fork (m : Machine) (p : Process) (s : ShellState) (c : Command) (ignored : List Nat) : Machine × Nat :=
  m.spawn p.pid (p.ignored ++ ignored)
    (.shell { s with todo := [.run c], traps := [], pending := [] })

/-- Runs a command, of which the other tasks of the shell are what is left to do. -/
def runOne (m : Machine) (p : Process) (s : ShellState) (c : Command) : Machine :=
  let push := fun (ts : List Task) => m.setShell p.pid { s with todo := ts ++ s.todo }
  match c with
  | .nothing => push []
  | .simple assignments words redirects => m.runSimple p s assignments words redirects
  | .seq a b => push [.run a, .run b]
  | .both a b => push [.run a, .andThen b]
  | .either a b => push [.run a, .orElse b]
  | .negation a => push [.run a, .invert]
  | .background a =>
    -- the keyboard's signals do not reach the background
    let (m, pid) := m.fork p s a [2, 3]
    m.setShell p.pid (done { s with scope := { s.scope with lastBackground := some pid } } 0)
  | .subshell a =>
    let (m, pid) := m.fork p s a []
    m.setShell p.pid { s with todo := .foreground pid :: s.todo }
  | .redirected a rs =>
    match rs.foldlM (redirect? s) (m, s.out, s.err) with
    | some (m, out, err) =>
      m.setShell p.pid { s with out, err, todo := .run a :: .restore s.out s.err :: s.todo }
    | none => m.setShell p.pid (done s 2)
  | .branch test yes no => push [.run test, .choose yes no]
  | .loop untilTrue test body => push [.run test, .again untilTrue test body]
  | .each name words body =>
    match s.scope.expandAll? words with
    | some fields => push [.each name fields body]
    | none => m.setShell p.pid (done s 2)

/-- Ends a shell, after the script for its end if it has one. -/
def exitShell (m : Machine) (p : Process) (s : ShellState) : Machine :=
  let n := s.scope.status
  match (s.traps.lookup 0).bind Script.parse? with
  | some c =>
    m.setShell p.pid
      { s with traps := s.traps.filter (·.1 != 0), todo := [.run c, .status n, .exit] }
  | none => m.finish p.pid (.code (n % 256))

/-- Carries out a shell's next task; none if it has to wait. -/
def stepTask (m : Machine) (p : Process) (s : ShellState) : Option Machine :=
  match s.todo with
  | [] => some (m.exitShell p s)
  | t :: rest =>
    let s := { s with todo := rest }
    let push := fun (ts : List Task) => some (m.setShell p.pid { s with todo := ts ++ rest })
    let ok := s.scope.status == 0
    match t with
    | .run c => some (m.runOne p s c)
    | .andThen c => push (if ok then [.run c] else [])
    | .orElse c => push (if ok then [] else [.run c])
    | .invert => some (m.setShell p.pid (done s (if ok then 1 else 0)))
    | .choose yes no =>
      if ok then push [.run yes]
      else some (m.setShell p.pid { done s 0 with todo := .run no :: rest })
    | .again untilTrue test body =>
      if ok != untilTrue then push [.run body, .run test, .again untilTrue test body]
      else some (m.setShell p.pid (done s 0))
    | .each name fields body =>
      match fields with
      | [] => push []
      | f :: fs =>
        some (m.setShell p.pid
          { s with scope := s.scope.set name f, todo := .run body :: .each name fs body :: rest })
    | .restore out err => some (m.setShell p.pid { s with out, err })
    | .status n => some (m.setShell p.pid (done s n))
    | .foreground pid =>
      (m.ending? pid).map fun e => m.setShell p.pid (done s e.status)
    | .await pid =>
      if m.isLive pid then none
      else some (m.setShell p.pid (done s (((m.ending? pid).map Ending.status).getD 127)))
    | .awaitAll =>
      if m.processes.any fun c => c.parent == p.pid && c.ended.isNone then none
      else some (m.setShell p.pid (done s 0))
    | .exit => some (m.exitShell p s)

/-- Runs the script for a signal that came. A command in the foreground is waited for first; waiting for the
background is broken off. -/
def stepTrap (m : Machine) (p : Process) (s : ShellState) : Option Machine :=
  match s.pending with
  | [] => none
  | n :: pending =>
    let script := ((s.traps.lookup n).bind Script.parse?).getD .nothing
    let interrupt := fun (status : Nat) (todo : List Task) =>
      some (m.setShell p.pid { s with pending, todo := .run script :: .status status :: todo })
    match s.todo with
    | .foreground pid :: _ => if m.isLive pid then none else interrupt s.scope.status s.todo
    | .awaitAll :: rest => interrupt (128 + n) rest
    | .await _ :: rest => interrupt (128 + n) rest
    | todo => interrupt s.scope.status todo

/-- Lets a process go on; none if it has to wait. -/
def stepProcess (m : Machine) (p : Process) : Option Machine :=
  if p.ended.isSome then none
  else
    match p.work with
    | .sleeping wake => if wake ≤ m.now then some (m.finish p.pid (.code 0)) else none
    | .shell s => m.stepTrap p s <|> m.stepTask p s

def step? (m : Machine) : Option Machine := m.processes.findSome? m.stepProcess

/-- The steps that the processes may take at one instant. -/
def patience : Nat := 100000

def settleWithin : Nat → Machine → Machine
  | 0, m => m
  | n + 1, m =>
    match m.step? with
    | some m' => settleWithin n m'
    | none => m

/-- Lets all processes go on until they wait. -/
def settle (m : Machine) : Machine := settleWithin patience m

/-- The next instant at which a process goes on. -/
def next? (m : Machine) : Option Nat :=
  (m.processes.filterMap fun p =>
    match p.ended, p.work with
    | none, .sleeping wake => if m.now < wake then some wake else none
    | _, _ => none).min?

/-- Lets time pass until a condition holds, at most up to an instant. -/
def awaitFrom (holds : Machine → Bool) (now last : Nat) (m : Machine) : Machine :=
  let m := { m with now }.settle
  if holds m then m
  else
    match m.next? with
    | some t =>
      if _h : now < t ∧ t ≤ last then awaitFrom holds t last m else { m with now := max now last }
    | none => { m with now := max now last }
termination_by last - now

/-- Lets time pass until a condition holds, at most for some milliseconds. -/
def await (m : Machine) (holds : Machine → Bool) (ms : Nat) : Machine := awaitFrom holds m.now (m.now + ms) m

end Machine
end ProxyWatch.Shell
