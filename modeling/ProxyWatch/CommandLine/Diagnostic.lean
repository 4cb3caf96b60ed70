import ProxyWatch.Service
import ProxyWatch.Text.Inspect
import ProxyWatch.Text.Quoted

/-!
Errors as they are shown when the program ends: the cause with its fields.
-/
namespace ProxyWatch

/-- A text in quotes. -/
def Inspect.text (s : String) : Inspect := .atom (Quoted.quoted s)

def FileError.inspect (e : FileError) : Inspect :=
  match e.code? with
  | some n =>
    .record "Os" [("code", .atom (Decimal.text n)), ("kind", .atom e.kind), ("message", .text e.describe)]
  | none => .record "Error" [("kind", .atom e.kind), ("message", .text e.describe)]

def ConfigError.inspect : ConfigError → Inspect
  | homeNotFound => .atom "HomeDirNotFound"
  | read path e => .record "Read" [("path", .text path), ("source", e.inspect)]
  | write path e => .record "Write" [("path", .text path), ("source", e.inspect)]
  | malformed => .wrapped "Parse" (.atom "..")
  | invalid field fault => .record "Invalid" [("field", .text field), ("reason", .text fault.message)]
  | invalidProxyUrl id e => .record "InvalidProxyUrl" [("id", .text id), ("reason", .text e.message)]

def RegistryError.inspect : RegistryError → Inspect
  | notFound id => .wrapped "NotFound" (.text id)
  | persistence detail => .wrapped "Persistence" (.text detail)

def ServiceError.inspect : ServiceError → Inspect
  | config e => .wrapped "Config" e.inspect
  | registry e => .wrapped "Registry" e.inspect
  | selection _ => .wrapped "Selection" (.atom "NoProxyAvailable")
  | endpointExists id => .wrapped "EndpointExists" (.text id)
  | emptyEndpointId => .atom "EmptyEndpointId"
  | sessionActive target => .wrapped "SessionAlreadyActive" (.text target)
  | sessionNotFound target => .wrapped "SessionNotFound" (.text target)
  | noProbeBound => .atom "NoProbeBound"

end ProxyWatch
