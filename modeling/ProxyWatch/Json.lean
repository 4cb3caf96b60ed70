/-!
JSON documents.
-/
namespace ProxyWatch

/-- A JSON value. An object keeps its members in order, repeated names included. -/
inductive Json
  | null
  | bool (b : Bool)
  /-- A number written without fraction and exponent, other than `-0`. -/
  | int (value : Int)
  /-- Any other number, `± digits · 10 ^ exponent`. -/
  | real (negative : Bool) (digits : Nat) (exponent : Int)
  | str (s : String)
  /-- A string, or an object with a member name, that holds an unpaired surrogate: grammatical, but no text. -/
  | unreadable
  | arr (items : List Json)
  | obj (members : List (String × Json))
  deriving Inhabited, Repr

namespace Json

/-- The value of the last member with the given name. -/
def member? (j : Json) (name : String) : Option Json :=
  match j with
  | obj ms => (ms.reverse.find? (·.1 == name)).map (·.2)
  | _ => none

end Json
end ProxyWatch
