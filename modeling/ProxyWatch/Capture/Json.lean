import ProxyWatch.Capture.Command
import ProxyWatch.Capture.Process
import ProxyWatch.Endpoint.Json

/-!
Exit reports and capture commands as JSON records.
-/
namespace ProxyWatch

namespace ExitReport

def toJson (r : ExitReport) : Json :=
  .obj [("code", .ofOption .int r.code), ("success", .bool r.success)]

def ofJson? (j : Json) : Option ExitReport := do
  let f ← j.fields? ["code", "success"]
  return { code := ← f.optional "code" Json.int32?, success := ← f.required "success" Json.bool? }

end ExitReport

/-- Adds a variable in its place by name, instead of one with the same name. -/
def insertVariable (v : String × String) : List (String × String) → List (String × String)
  | [] => [v]
  | x :: xs =>
    if v.1 < x.1 then v :: x :: xs
    else if v.1 = x.1 then v :: xs
    else x :: insertVariable v xs

/-- The variables by name; of several with one name the last one counts. -/
def variablesOf (vs : List (String × String)) : List (String × String) :=
  vs.foldl (fun acc v => insertVariable v acc) []

/-- An object whose members are all strings, as variables. -/
def Json.variables? : Json → Option (List (String × String))
  | .obj ms => do
    return variablesOf (← ms.mapM fun (n, j) => do return (n, ← j.string?))
  | _ => none

namespace CaptureCommand

/-- The names of the fields, in order. -/
def fieldNames : List String := ["program", "args", "proxy_env", "env", "working_dir"]

def toJson (c : CaptureCommand) : Json :=
  .obj [("program", .str c.program), ("args", .arr (c.args.map .str)),
    ("proxy_env", .arr (c.proxyEnv.map .str)),
    ("env", .obj (c.env.map fun (n, v) => (n, .str v))),
    ("working_dir", .ofOption .str c.workingDir)]

/-- Reads a command; what is left out has its default. -/
def ofJson? (j : Json) : Option CaptureCommand := do
  let f ← j.fields? fieldNames
  let d : CaptureCommand := {}
  return {
    program := ← f.defaulted "program" d.program Json.string?
    args := ← f.defaulted "args" d.args (Json.list? Json.string?)
    proxyEnv := ← f.defaulted "proxy_env" d.proxyEnv (Json.list? Json.string?)
    env := ← f.defaulted "env" d.env Json.variables?
    workingDir := ← f.nullable "working_dir" Json.string? }

end CaptureCommand
end ProxyWatch
