import ProxyWatch.CommandLine
import ProxyWatch.Timestamp.Epoch
import Std.Time.DateTime

/-!
The program on a real system: the files that a run can touch are read before it, and those that it changed are
written after it.
-/
namespace ProxyWatch.Main

open CommandLine

/-- The calendar clock. -/
def readClock : IO Timestamp := do
  let nanos := (← Std.Time.Timestamp.now).toNanosecondsSinceUnixEpoch.toInt
  return .ofUnix (nanos / 1000000000) (nanos % 1000000000).toNat

/-- Copies the file or directory at a path into a tree, with the directories above it. -/
def copyIn (t : FileTree) (path : String) : IO FileTree := do
  let here ← IO.currentDir
  let place := (if path.startsWith "/" then [] else t.cwd) ++ FileTree.names path
  let real := fun (p : Place) => here / ("/" ++ "/".intercalate p)
  let mut t := t
  for k in List.range (place.length + 1) do
    if ← (real (place.take k)).isDir then t := t.put (place.take k) .dir
  if (← (real place).pathExists) && !(← (real place).isDir) then
    return t.put place (.file (← IO.FS.readBinFile (real place)))
  else return t

/-- Writes the files in which a tree differs from an earlier one. -/
def copyOut (before after : FileTree) : IO Unit := do
  for (place, node) in after.nodes do
    let path := "/" ++ "/".intercalate place
    match node with
    | .dir => IO.FS.createDirAll path
    | .file bytes =>
      match before.at? place with
      | some (.file old) => if old != bytes then IO.FS.writeBinFile path bytes
      | _ =>
        IO.FS.createDirAll ("/" ++ "/".intercalate place.dropLast)
        IO.FS.writeBinFile path bytes

/-- The files that a run with options can touch, as far as they exist. -/
def gather (o : Options) (home : Option String) (cwd : Place) : IO FileTree := do
  let mut t : FileTree := { cwd }
  for k in List.range (cwd.length + 1) do
    t := t.put (cwd.take k) .dir
  match Config.pathOr home o.config with
  | .error _ => return t
  | .ok path =>
    t ← copyIn t path
    let state := match o.state, Config.load t home o.config with
      | some path, _ => some path
      | none, .ok c => c.statePath
      | none, .error _ => none
    match state with
    | some path => copyIn t path
    | none => return t

/-- Runs the program; its exit status. -/
def program (args : List String) : IO UInt32 := do
  let home ← IO.getEnv "HOME"
  let cwd := FileTree.names (toString (← IO.currentDir))
  let o := (Options.ofArgs args).toOption.getD {}
  let files ← gather o home cwd
  let refused : Reply := { result := .error (.transport "no network") }
  let r := run { files, home, clock := ← readClock, network := fun _ => refused } args
  copyOut files r.files
  for line in r.output do
    IO.println line
  for line in r.messages do
    IO.eprintln line
  return r.status.toUInt32

end ProxyWatch.Main

def main (args : List String) : IO UInt32 := ProxyWatch.Main.program args
