/-!
A tree of files and directories as a value. Paths are texts with slashes; relative ones start at a
working directory.
-/
namespace ProxyWatch

/-- Why a file operation failed. -/
inductive FileError
  | notFound
  | permissionDenied
  | exists
  | notDirectory
  | isDirectory
  /-- The file's bytes are no text. -/
  | notText
  deriving DecidableEq, Repr, Inhabited

/-- What stands at a path. -/
inductive Node
  | file (bytes : ByteArray)
  | dir
  deriving Inhabited

/-- A place in the tree: the names from the root down. -/
abbrev Place := List String

/-- Files and directories by place. The root is always a directory. -/
structure FileTree where
  nodes : List (Place × Node) := []
  /-- The working directory. -/
  cwd : Place := []
  deriving Inhabited

namespace FileTree

/-- What stands at a place. -/
def at? (t : FileTree) (p : Place) : Option Node :=
  if p = [] then some .dir else (t.nodes.find? (·.1 == p)).map (·.2)

def put (t : FileTree) (p : Place) (n : Node) : FileTree :=
  { t with nodes := (p, n) :: t.nodes.filter (·.1 != p) }

/-- Takes away what stands at a place. -/
def remove (t : FileTree) (p : Place) : FileTree := { t with nodes := t.nodes.filter (·.1 != p) }

/-- Walks down the names from a directory. Every name but the last must be an existing directory. -/
def walk (t : FileTree) (dir : Place) : List String → Except FileError Place
  | [] => .ok dir
  | "." :: rest => walk t dir rest
  | ".." :: rest => walk t dir.dropLast rest
  | [name] => .ok (dir ++ [name])
  | name :: rest =>
    match t.at? (dir ++ [name]) with
    | some .dir => walk t (dir ++ [name]) rest
    | some (.file _) => .error .notDirectory
    | none => .error .notFound

/-- The texts between slashes. -/
def segments : List Char → List (List Char)
  | [] => [[]]
  | c :: r =>
    if c = '/' then [] :: segments r
    else match segments r with
      | s :: rest => (c :: s) :: rest
      | [] => [[c]]

/-- The names in a path. -/
def names (path : String) : List String := ((segments path.toList).filter (!·.isEmpty)).map String.ofList

/-- The place that a path names. A path that ends in a slash names a directory. -/
def resolve (t : FileTree) (path : String) : Except FileError Place := do
  if path = "" then .error .notFound
  else
    let place ← t.walk (if path.startsWith "/" then [] else t.cwd) (names path)
    match t.at? place with
    | some (.file _) => if path.endsWith "/" then .error .notDirectory else .ok place
    | _ => .ok place

/-- What a path names. -/
def stat (t : FileTree) (path : String) : Except FileError Node := do
  match t.at? (← t.resolve path) with
  | some n => .ok n
  | none => .error .notFound

def pathExists (t : FileTree) (path : String) : Bool :=
  match t.stat path with
  | .ok _ => true
  | .error _ => false

def isDir (t : FileTree) (path : String) : Bool :=
  match t.stat path with
  | .ok .dir => true
  | _ => false

/-- The bytes of a file. -/
def read (t : FileTree) (path : String) : Except FileError ByteArray := do
  match ← t.stat path with
  | .file bytes => .ok bytes
  | .dir => .error .isDirectory

/-- The text of a file. -/
def readText (t : FileTree) (path : String) : Except FileError String := do
  match String.fromUTF8? (← t.read path) with
  | some s => .ok s
  | none => .error .notText

/-- Creates a file or replaces its content. -/
def write (t : FileTree) (path : String) (bytes : ByteArray) : Except FileError FileTree := do
  let place ← t.resolve path
  match t.at? place with
  | some .dir => .error .isDirectory
  | some (.file _) => .ok (t.put place (.file bytes))
  | none => if path.endsWith "/" then .error .isDirectory else .ok (t.put place (.file bytes))

/-- Creates one directory. -/
def makeDir (t : FileTree) (path : String) : Except FileError FileTree := do
  let place ← t.walk (if path.startsWith "/" then [] else t.cwd) (names path)
  match t.at? place with
  | some _ => .error .exists
  | none => .ok (t.put place .dir)

/-- Creates the directories that `below`, names from `dir` down, still needs. -/
def makeDirsFrom (t : FileTree) (dir : Place) : List String → Except FileError FileTree
  | [] => .ok t
  | "." :: below => makeDirsFrom t dir below
  | ".." :: below => makeDirsFrom t dir.dropLast below
  | name :: below =>
    match t.at? (dir ++ [name]) with
    | some .dir => makeDirsFrom t (dir ++ [name]) below
    | some (.file _) => .error (if below.isEmpty then .exists else .notDirectory)
    | none => makeDirsFrom (t.put (dir ++ [name]) .dir) (dir ++ [name]) below

/-- Creates a directory and those above it, as far as they are missing. -/
def makeDirs (t : FileTree) (path : String) : Except FileError FileTree :=
  t.makeDirsFrom (if path.startsWith "/" then [] else t.cwd) (names path)

/-- Moves a file, replacing a file that stood at the new path. Directories are not moved. -/
def rename (t : FileTree) (old new : String) : Except FileError FileTree := do
  let source ← t.resolve old
  let target ← t.resolve new
  match t.at? source, t.at? target with
  | none, _ => .error .notFound
  | some .dir, _ => .error .isDirectory
  | some (.file _), some .dir => .error .isDirectory
  | some (.file bytes), _ =>
    if new.endsWith "/" then .error .notDirectory
    else .ok (if source = target then t else (t.remove source).put target (.file bytes))

end FileTree

namespace FileError

/-- The system's number for the error; none if the error is not the system's. -/
def code? : FileError → Option Nat
  | notFound => some 2
  | permissionDenied => some 13
  | .exists => some 17
  | notDirectory => some 20
  | isDirectory => some 21
  | notText => none

/-- The name of the kind of error. -/
def kind : FileError → String
  | notFound => "NotFound"
  | permissionDenied => "PermissionDenied"
  | .exists => "AlreadyExists"
  | notDirectory => "NotADirectory"
  | isDirectory => "IsADirectory"
  | notText => "InvalidData"

/-- The error in words. -/
def describe : FileError → String
  | notFound => "No such file or directory"
  | permissionDenied => "Permission denied"
  | .exists => "File exists"
  | notDirectory => "Not a directory"
  | isDirectory => "Is a directory"
  | notText => "stream did not contain valid UTF-8"

/-- The error in words, with its number. -/
def message (e : FileError) : String :=
  match e.code? with
  | some n => e.describe ++ " (os error " ++ toString n ++ ")"
  | none => e.describe

end FileError

namespace PathText

/-- A reversed path from its last name on: slashes and points that name nothing stand behind it. -/
def fromLastName : List Char → List Char
  | '/' :: r => fromLastName r
  | '.' :: '/' :: r => fromLastName r
  | r => r

/-- The path up to its last name; a path of slashes only is the root. -/
def trimmed (path : List Char) : List Char := (fromLastName path.reverse).reverse

/-- A path below another one; an absolute path stands alone. -/
def join (base path : String) : String :=
  if path.startsWith "/" || base = "" then path
  else if base.endsWith "/" then base ++ path
  else base ++ "/" ++ path

/-- The path of the directory that holds the last name of a path; none for the root and for no path. -/
def parent? (path : String) : Option String :=
  let cs := trimmed path.toList
  if cs.isEmpty then none
  else
    let above := (cs.reverse.dropWhile (· != '/')).reverse
    let dir := trimmed above
    some (if dir.isEmpty && !above.isEmpty then "/" else String.ofList dir)

/-- A file name without its extension: the part from the last point on, unless it is the first character. -/
def stem (name : List Char) : List Char :=
  match (name.reverse.dropWhile (· != '.')) with
  | _ :: before => if before.isEmpty then name else before.reverse
  | [] => name

/-- The path with another extension of its last name. -/
def withExtension (path ext : String) : String :=
  let cs := trimmed path.toList
  let name := (cs.reverse.takeWhile (· != '/')).reverse
  let above := (cs.reverse.dropWhile (· != '/')).reverse
  if name.isEmpty || name == ['.'] || name == ['.', '.'] then path
  else String.ofList (above ++ stem name ++ '.' :: ext.toList)

end PathText
end ProxyWatch
