import ProxyWatch.Number.Binary64

/-!
Values of TOML documents.
-/
namespace ProxyWatch

/-- A value. A table has each name once. -/
inductive Toml
  | str (s : String)
  | int (value : Int)
  | float (value : Binary64)
  | bool (b : Bool)
  /-- A date, a time or both, as written. -/
  | moment (text : String)
  | arr (items : List Toml)
  | table (members : List (String × Toml))
  deriving Inhabited, Repr

end ProxyWatch
