import ProxyWatch.Config.Toml

/-!
The configuration file: where it is, reading it, and writing a first one.
-/
namespace ProxyWatch.Config

/-- The path of the configuration file below a home directory. -/
def defaultPath (home : Option String) : Except ConfigError String :=
  match home with
  | some home => .ok (PathText.join home ".config/proxyguard/config.toml")
  | none => .error .homeNotFound

/-- The given path, or the default one. -/
def pathOr (home path : Option String) : Except ConfigError String :=
  match path with
  | some path => .ok path
  | none => defaultPath home

/-- Reads a configuration; a missing file stands for the defaults. -/
def load (t : FileTree) (home path : Option String) : Except ConfigError Config := do
  let path ← pathOr home path
  if t.pathExists path then
    let text ← (t.readText path).mapError (.read path)
    ofText text
  else return {}

/-- Writes a configuration with defaults unless there is a file; the path of the file. -/
def init (t : FileTree) (home path : Option String) : FileTree × Except ConfigError String :=
  match pathOr home path with
  | .error e => (t, .error e)
  | .ok path =>
    if t.pathExists path then (t, .ok path)
    else
      let dir := (PathText.parent? path).getD ""
      match if dir = "" then .ok t else t.makeDirs dir with
      | .error e => (t, .error (.write dir e))
      | .ok t =>
        match t.write path ({} : Config).toText.toUTF8 with
        | .error e => (t, .error (.write path e))
        | .ok t => (t, .ok path)

end ProxyWatch.Config
