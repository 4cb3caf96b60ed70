/-!
Values written out for diagnostics: records with named fields and wrapped values, on one line or with
one field a line.
-/
namespace ProxyWatch

inductive Inspect
  | atom (text : String)
  | wrapped (name : String) (inner : Inspect)
  | record (name : String) (fields : List (String × Inspect))
  deriving Inhabited

namespace Inspect

/-- Shows an optional value. -/
def option {α : Type} (f : α → Inspect) : Option α → Inspect
  | some a => wrapped "Some" (f a)
  | none => atom "None"

mutual

/-- The value on one line. -/
def line : Inspect → String
  | atom s => s
  | wrapped name inner => name ++ "(" ++ line inner ++ ")"
  | record name fields => name ++ " \x7b " ++ ", ".intercalate (lineFields fields) ++ " \x7d"

def lineFields : List (String × Inspect) → List String
  | [] => []
  | (n, v) :: rest => (n ++ ": " ++ line v) :: lineFields rest

end

/-- Spaces in front of a line at the given level. -/
def indent (level : Nat) : String := String.ofList (List.replicate (4 * level) ' ')

mutual

/-- The value over several lines, at the given level. -/
def lines (level : Nat) : Inspect → String
  | atom s => s
  | wrapped name inner =>
    name ++ "(\n" ++ indent (level + 1) ++ lines (level + 1) inner ++ ",\n" ++ indent level ++ ")"
  | record name fields => name ++ " \x7b\n" ++ linesFields level fields ++ indent level ++ "\x7d"

def linesFields (level : Nat) : List (String × Inspect) → String
  | [] => ""
  | (n, v) :: rest =>
    indent (level + 1) ++ n ++ ": " ++ lines (level + 1) v ++ ",\n" ++ linesFields level rest

end

end Inspect
end ProxyWatch
