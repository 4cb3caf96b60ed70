import ProxyWatch.Capture.Child
import ProxyWatch.CommandLine.Diagnostic
import ProxyWatch.CommandLine.Help
import ProxyWatch.CommandLine.Report
import ProxyWatch.Config.File
import ProxyWatch.Probe.Request

/-!
The command line program: it writes a first configuration, checks one, runs one health cycle, or supervises a
capture until it ends.
-/
namespace ProxyWatch

/-- The files after launches of a command, the latest first. -/
def CaptureCommand.filesAfter (c : CaptureCommand) (files : FileTree) (launches : List Launch) : FileTree :=
  launches.foldr (fun l t => (c.behaviour l t).2) files

/-- Launches a command; each launch finds the files as those before it left them. -/
def CaptureCommand.launcher (c : CaptureCommand) (files : FileTree) : Launcher := fun before l =>
  (c.behaviour l (c.filesAfter files before)).1

namespace CommandLine

/-- What a run of the program leaves behind. -/
structure Result where
  status : Nat := 0
  output : List String := []
  messages : List String := []
  files : FileTree

/-- The surroundings of a run. -/
structure Setting where
  files : FileTree
  /-- The home directory. -/
  home : Option String
  clock : Timestamp
  /-- Replies to the probes whose requests can be built. -/
  network : String → Reply

namespace Result

/-- Ends with an error. -/
def failed (files : FileTree) (shown : String) : Result :=
  { status := 1, messages := ["Error: " ++ shown], files }

end Result

/-- The reply to a probe through a proxy; a request that cannot be built fails at once. -/
def replyOf (s : Setting) (target proxy : String) : Reply :=
  match ProbeRequest.build proxy target with
  | .error e => { result := .error e }
  | .ok _ => s.network proxy

/-- The replies of the proxies of a service. -/
def repliesOf (s : Setting) (v : Service) : Replies :=
  (v.list false).foldl (fun rs e =>
    rs.withScript e.url { further := some (replyOf s v.config.health.probeUrl e.url) }) {}

/-- Runs one health cycle and reports on it. -/
def probe (v : Service) : Result :=
  let (v', r) := v.cycle
  match r with
  | .ok round =>
    { output := reportLines v' round (v'.watch.now - v.watch.now), files := v'.watch.files }
  | .error e => .failed v'.watch.files e.inspect.line

/-- Supervises a capture until it ends, with the health loop in the background. -/
def record (v : Service) (target : String) : Result :=
  let (v, _) := v.startLoop
  let (v, started) := v.startSession target
  match started with
  | .error e => .failed v.watch.files e.inspect.line
  | .ok _ =>
    let (w, state) := v.watch.awaitOutcome target Watch.horizon
    let files := v.config.capture.filesAfter w.files w.launches
    match w.run? target, state with
    | some run, some .failed =>
      .failed files (Quoted.quoted ("capture session for " ++ target ++ " failed after " ++
        Decimal.text run.shown.attempt ++ " attempt(s): " ++
        run.shown.error.getD "unknown error"))
    | _, some state =>
      { output := ["Capture session for " ++ target ++ " ended: " ++ state.word], files }
    | _, none => { files }

/-- Runs the program with options that ask for more than a configuration file. -/
def serve (s : Setting) (o : Options) (c : Config) : Result :=
  if o.check then
    match c.validate with
    | .ok _ => { output := ["✓ Configuration valid"], files := s.files }
    | .error e => .failed s.files e.inspect.line
  else
    let w : Watch :=
      { clock := s.clock, files := s.files, launcher := c.capture.launcher s.files }
    match Service.build c none w with
    | .error e => .failed s.files e.inspect.line
    | .ok v =>
      let v := { v with watch := { v.watch with replies := repliesOf s v } }
      if o.probe then probe v
      else
        match o.record with
        | some target => record v target
        | none => { files := v.watch.files }

/-- Runs the program with options. -/
def runWith (s : Setting) (o : Options) : Result :=
  if o.init then
    match Config.init s.files s.home o.config with
    | (files, .ok path) => { output := ["Config: " ++ path], files }
    | (files, .error e) => .failed files e.inspect.line
  else
    match Config.load s.files s.home o.config with
    | .error e => .failed s.files e.inspect.line
    | .ok c => serve s o (match o.state with
      | some path => { c with statePath := some path }
      | none => c)

/-- Runs the program with arguments. -/
def run (s : Setting) (args : List String) : Result :=
  match Options.ofArgs args with
  | .ok o => runWith s o
  | .error .help => { output := helpLines, files := s.files }
  | .error .version => { output := [versionText], files := s.files }
  | .error (.usage message) => { status := 2, messages := ["error: " ++ message], files := s.files }

end CommandLine
end ProxyWatch
