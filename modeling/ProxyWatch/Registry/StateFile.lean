import ProxyWatch.Endpoint.Json
import ProxyWatch.FileTree
import ProxyWatch.Json.Printer
import ProxyWatch.Json.Reader
import ProxyWatch.Registry

/-!
The state file of a registry, and a registry that writes every change through to it. A save writes a
temporary file beside the state file and renames it, so that an interrupted save leaves the old content.
-/
namespace ProxyWatch

namespace StateFile

/-- The format version written, and the newest one read. -/
def version : Nat := 1

/-- The document with the given endpoints. -/
def document (now : Timestamp) (es : List Endpoint) : Json :=
  .obj [("version", .ofNat version), ("saved_at", now.toJson),
    ("endpoints", .arr (es.map Endpoint.toJson))]

/-- The bytes of that document. -/
def content (now : Timestamp) (es : List Endpoint) : ByteArray := (document now es).pretty.toUTF8

/-- The version and the endpoints of a document. -/
def ofJson? (j : Json) : Option (Nat × List Endpoint) := do
  let f ← j.fields? ["version", "saved_at", "endpoints"]
  let v ← f.required "version" (Json.nat? maxU32)
  let _ ← f.required "saved_at" Timestamp.ofJson?
  let es ← f.required "endpoints" (Json.list? Endpoint.ofJson?)
  return (v, es)

/-- The endpoints in a text. -/
def decode (text : String) : Except RegistryError (List Endpoint) :=
  match (Json.parse? text.toList).bind ofJson? with
  | none => .error (.persistence "Failed to parse registry file")
  | some (v, es) =>
    if v > version then
      .error (.persistence ("Unsupported registry file version " ++ Decimal.text v ++
        " (expected <= " ++ Decimal.text version ++ ")"))
    else .ok es

/-- The endpoints in a state file; a missing file holds none. -/
def load (t : FileTree) (path : String) : Except RegistryError (List Endpoint) :=
  if t.pathExists path then
    match t.readText path with
    | .error e => .error (.persistence ("Failed to read registry file: " ++ e.message))
    | .ok text => decode text
  else .ok []

/-- The temporary file beside a state file. -/
def temporary (path : String) : String := PathText.withExtension path "tmp"

/-- One step of a save. -/
inductive SaveStep
  | makeDirs (path : String)
  | write (path : String) (bytes : ByteArray)
  | rename (old new : String)

def SaveStep.run (t : FileTree) : SaveStep → Except FileError FileTree
  | makeDirs path => t.makeDirs path
  | write path bytes => t.write path bytes
  | rename old new => t.rename old new

/-- What a failed step was about to do. -/
def SaveStep.purpose : SaveStep → String
  | makeDirs _ => "Failed to create directory: "
  | write .. => "Failed to write temp file: "
  | rename .. => "Failed to rename temp file: "

/-- The steps that save endpoints at a path, in order. -/
def saveSteps (path : String) (now : Timestamp) (es : List Endpoint) : List SaveStep :=
  (match PathText.parent? path with | some dir => [.makeDirs dir] | none => []) ++
    [.write (temporary path) (content now es), .rename (temporary path) path]

/-- Runs steps up to the first one that fails; what the earlier ones did stays done. -/
def runSteps (t : FileTree) : List SaveStep → FileTree × Except RegistryError Unit
  | [] => (t, .ok ())
  | s :: rest =>
    match s.run t with
    | .ok t' => runSteps t' rest
    | .error e => (t, .error (.persistence (s.purpose ++ e.message)))

/-- Saves endpoints at a path. -/
def save (t : FileTree) (path : String) (now : Timestamp) (es : List Endpoint) :
    FileTree × Except RegistryError Unit :=
  runSteps t (saveSteps path now es)

end StateFile

/-- A change of a registry. -/
inductive Change
  | upsert (e : Endpoint)
  | delete (id : String)
  | setEnabled (id : String) (enabled : Bool)
  | setPriority (id : String) (priority : Nat)
  | health (id : String) (u : HealthUpdate)

/-- The changed registry and the endpoint that the change stored or removed. -/
def Registry.change (r : Registry) : Change → Except RegistryError (Registry × Endpoint)
  | .upsert e => .ok (r.upsert e)
  | .delete id => r.delete id
  | .setEnabled id enabled => r.setEnabled id enabled
  | .setPriority id priority => r.setPriority id priority
  | .health id u => r.applyHealth id u

/-- A registry, with the path of its state file if it has one. -/
structure Store where
  registry : Registry := .empty
  path : Option String := none
  deriving Inhabited

namespace Store

/-- Opens the registry in a state file. -/
def openAt (t : FileTree) (path : String) : Except RegistryError Store := do
  return { registry := .ofList (← StateFile.load t path), path := some path }

/-- Writes the registry to its state file, if it has one. A failed save changes nothing in memory. -/
def persist (s : Store) (t : FileTree) (now : Timestamp) : FileTree :=
  match s.path with
  | some path => (StateFile.save t path now s.registry.entries).1
  | none => t

/-- Replaces the registry by a changed one and persists it. -/
def commit (s : Store) (t : FileTree) (now : Timestamp) (r : Registry) : Store × FileTree :=
  let s := { s with registry := r }
  (s, s.persist t now)

/-- Makes a change and persists it; a change that fails does neither. -/
def change (s : Store) (t : FileTree) (now : Timestamp) (c : Change) :
    Except RegistryError (Store × FileTree × Endpoint) := do
  let (r, e) ← s.registry.change c
  let (s, t) := s.commit t now r
  return (s, t, e)

variable {s s' : Store} {t t' : FileTree} {path : String} {now : Timestamp} {c : Change} {r : Registry} {e : Endpoint}
  {err : RegistryError}

theorem commit_eq (h : s.path = some path) :
    s.commit t now r = ({ s with registry := r }, (StateFile.save t path now r.entries).1) := by
  simp only [commit, persist, h]

theorem change_of_error (h : s.registry.change c = .error err) : s.change t now c = .error err := by
  simp only [change, h, bind, Except.bind]

theorem change_of_ok (h : s.registry.change c = .ok (r, e)) :
    s.change t now c = .ok ((s.commit t now r).1, (s.commit t now r).2, e) := by
  simp only [change, h, bind, Except.bind, pure, Except.pure]

theorem change_eq_ok (h : s.change t now c = .ok (s', t', e)) :
    s.registry.change c = .ok (s'.registry, e) ∧ s.commit t now s'.registry = (s', t') := by
  cases hc : s.registry.change c with
  | error err => cases (change_of_error hc).symm.trans h
  | ok x =>
    cases (change_of_ok hc).symm.trans h
    exact ⟨rfl, rfl⟩

end Store
end ProxyWatch
