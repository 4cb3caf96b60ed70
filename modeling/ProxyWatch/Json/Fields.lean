import ProxyWatch.Endpoint
import ProxyWatch.Json
import ProxyWatch.Number.Power

/-!
Reading records out of JSON values. A record is an object, whose known members appear at most once and
whose other members are ignored, or an array of the fields in order, which may end early only where the
fields left out have defaults.
-/
namespace ProxyWatch.Json

/-- The fields of a record as found in a value. -/
structure Fields where
  /-- The fields came as an array. -/
  positional : Bool
  values : List (String × Json)

/-- The fields of a record with the given names, in their order. -/
def fields? (names : List String) : Json → Option Fields
  | obj ms =>
    let known := ms.filter fun m => names.contains m.1
    if (known.map (·.1)).Nodup then some ⟨false, known⟩ else none
  | arr js => if js.length ≤ names.length then some ⟨true, names.zip js⟩ else none
  | _ => none

namespace Fields

variable {α : Type}

def get? (f : Fields) (name : String) : Option Json :=
  (f.values.find? (·.1 == name)).map (·.2)

/-- A field that must be there. -/
def required (f : Fields) (name : String) (read : Json → Option α) : Option α :=
  (f.get? name).bind read

/-- A field with a default. -/
def defaulted (f : Fields) (name : String) (default : α) (read : Json → Option α) : Option α :=
  match f.get? name with
  | some j => read j
  | none => some default

/-- A field that may be null, and that an object may leave out. -/
def optional (f : Fields) (name : String) (read : Json → Option α) : Option (Option α) :=
  match f.get? name with
  | some null => some none
  | some j => (read j).map some
  | none => if f.positional then none else some none

/-- A field that may be null or left out. -/
def nullable (f : Fields) (name : String) (read : Json → Option α) : Option (Option α) :=
  match f.get? name with
  | some null => some none
  | some j => (read j).map some
  | none => some none

end Fields

def string? : Json → Option String
  | str s => some s
  | _ => none

def bool? : Json → Option Bool
  | bool b => some b
  | _ => none

/-- A natural number up to `limit`. -/
def nat? (limit : Nat) : Json → Option Nat
  | int i => if 0 ≤ i ∧ i ≤ limit then some i.toNat else none
  | _ => none

/-- A 32-bit integer with a sign. -/
def int32? : Json → Option Int
  | int i => if -(pow2 31 : Int) ≤ i ∧ i < pow2 31 then some i else none
  | _ => none

/-- A list of values. -/
def list? {α : Type} (read : Json → Option α) : Json → Option (List α)
  | arr js => js.mapM read
  | _ => none

/-- One of several names: a string, or an object whose one member has that name and is null. -/
def choice? {α : Type} (options : List (String × α)) : Json → Option α
  | str s => (options.find? (·.1 == s)).map (·.2)
  | obj [(s, null)] => (options.find? (·.1 == s)).map (·.2)
  | _ => none

end ProxyWatch.Json
