/-!
The options of the command line: flags and values, in short and long forms.
-/
namespace ProxyWatch.CommandLine

/-- The options given. -/
structure Options where
  config : Option String := none
  state : Option String := none
  init : Bool := false
  check : Bool := false
  probe : Bool := false
  record : Option String := none
  jsonLogs : Bool := false
  deriving DecidableEq, Repr, Inhabited

/-- An option. -/
inductive Flag
  | config
  | state
  | init
  | check
  | probe
  | record
  | jsonLogs
  | help
  | version
  deriving DecidableEq, Repr, Inhabited

namespace Flag

/-- The long name. -/
def long : Flag → String
  | config => "config"
  | state => "state"
  | init => "init"
  | check => "check"
  | probe => "probe"
  | record => "record"
  | jsonLogs => "json-logs"
  | help => "help"
  | version => "version"

/-- The short name. -/
def short? : Flag → Option Char
  | config => some 'c'
  | state => some 's'
  | probe => some 'p'
  | record => some 'r'
  | help => some 'h'
  | version => some 'V'
  | _ => none

/-- The placeholder of the option's value, if it takes one. -/
def placeholder? : Flag → Option String
  | config => some "CONFIG"
  | state => some "STATE"
  | record => some "TARGET"
  | _ => none

/-- What the option is for. -/
def purpose : Flag → String
  | config => "Config file (defaults to ~/.config/proxyguard/config.toml)"
  | state => "Registry state file, overrides `state_path` from the config"
  | init => "Write a default config file and exit"
  | check => "Validate the config and exit"
  | probe => "Run one health check cycle, print the results and exit"
  | record => "Supervise a capture session for TARGET until Ctrl-C"
  | jsonLogs => "Emit logs as JSON lines"
  | help => "Print help"
  | version => "Print version"

/-- All options, in the order of the help text. -/
def all : List Flag := [config, state, init, check, probe, record, jsonLogs, help, version]

/-- The option may have an empty value; the path of a file is never empty. -/
def allowsEmpty (f : Flag) : Bool := f == record

end Flag

/-- What the command line asks for instead of a run with options. -/
inductive Stop
  | help
  | version
  | usage (message : String)
  deriving DecidableEq, Repr, Inhabited

namespace Options

/-- The option was given before. -/
def has (o : Options) : Flag → Bool
  | .config => o.config.isSome
  | .state => o.state.isSome
  | .init => o.init
  | .check => o.check
  | .probe => o.probe
  | .record => o.record.isSome
  | .jsonLogs => o.jsonLogs
  | _ => false

/-- Takes an option; each counts once. -/
def take (o : Options) (f : Flag) (value : String) : Except Stop Options :=
  if o.has f then .error (.usage ("the argument '--" ++ f.long ++ "' cannot be used multiple times"))
  else if f.placeholder?.isSome && value == "" && !f.allowsEmpty then
    .error (.usage ("a value is required for '--" ++ f.long ++ "' but none was supplied"))
  else
    match f with
    | .config => .ok { o with config := some value }
    | .state => .ok { o with state := some value }
    | .init => .ok { o with init := true }
    | .check => .ok { o with check := true }
    | .probe => .ok { o with probe := true }
    | .record => .ok { o with record := some value }
    | .jsonLogs => .ok { o with jsonLogs := true }
    | .help => .error .help
    | .version => .error .version

/-- An argument that has the form of an option. -/
def isOptionLike (arg : String) : Bool := arg.startsWith "-" && arg != "-"

def unexpected (arg : String) : Stop := .usage ("unexpected argument '" ++ arg ++ "' found")

/-- Takes an option whose value is the next argument. -/
def takeNext (o : Options) (f : Flag) (rest : List String) : Except Stop (Options × List String) :=
  match rest with
  | value :: rest =>
    if isOptionLike value then
      .error (.usage ("a value is required for '--" ++ f.long ++ "' but none was supplied"))
    else (o.take f value).map (·, rest)
  | [] => .error (.usage ("a value is required for '--" ++ f.long ++ "' but none was supplied"))

/-- Reads a cluster of short options: flags, and at the end perhaps an option with its value. -/
def readShort (o : Options) (rest : List String) : List Char → Except Stop (Options × List String)
  | [] => .ok (o, rest)
  | c :: cs =>
    match Flag.all.find? (·.short? == some c) with
    | none => .error (unexpected (String.ofList ['-', c]))
    | some f =>
      if f.placeholder?.isSome then
        match cs with
        | [] => o.takeNext f rest
        | '=' :: value => (o.take f (String.ofList value)).map (·, rest)
        | value => (o.take f (String.ofList value)).map (·, rest)
      else (o.take f "").bind fun o => readShort o rest cs

/-- Reads a long option without its hyphens. -/
def readLong (o : Options) (rest : List String) (text : List Char) :
    Except Stop (Options × List String) :=
  let (name, value) := text.span (· != '=')
  match Flag.all.find? (·.long == String.ofList name), value with
  | none, _ => .error (unexpected ("--" ++ String.ofList name))
  | some f, '=' :: value =>
    if f.placeholder?.isSome then (o.take f (String.ofList value)).map (·, rest)
    else .error (.usage ("unexpected value '" ++ String.ofList value ++ "' for '--" ++ f.long ++ "' found"))
  | some f, _ => if f.placeholder?.isSome then o.takeNext f rest else (o.take f "").map (·, rest)

/-- Reads arguments one after another; the first fault, or the first wish for help, counts. -/
def readArgs : Nat → Options → List String → Except Stop Options
  | 0, o, _ => .ok o
  | _ + 1, o, [] => .ok o
  | fuel + 1, o, arg :: rest =>
    match arg.toList with
    | ['-', '-'] =>
      match rest with
      | [] => .ok o
      | a :: _ => .error (unexpected a)
    | '-' :: '-' :: text => do
      let (o, rest) ← o.readLong rest text
      readArgs fuel o rest
    | '-' :: c :: cs => do
      let (o, rest) ← o.readShort rest (c :: cs)
      readArgs fuel o rest
    | _ => .error (unexpected arg)

/-- The options that arguments give. -/
def ofArgs (args : List String) : Except Stop Options := readArgs (args.length + 1) {} args

end Options
end ProxyWatch.CommandLine
