import ProxyWatch.Shell.Arithmetic

/-!
Expanding words: parameters and arithmetic are replaced by their values, and values outside quotes are
split into fields at blanks.
-/
namespace ProxyWatch.Shell

/-- What parameters stand for. -/
structure Scope where
  /-- Variables by name. -/
  bindings : List (List Char × List Char) := []
  /-- The variables that child processes inherit. -/
  exported : List (List Char) := []
  /-- The name of the script. -/
  zero : List Char := []
  args : List (List Char) := []
  /-- The exit status of the last command. -/
  status : Nat := 0
  /-- The number of the shell process. -/
  self : Nat := 0
  /-- The number of the last process in the background. -/
  lastBackground : Option Nat := none
  deriving DecidableEq, Repr, Inhabited

namespace Scope

def set (s : Scope) (name value : List Char) : Scope :=
  { s with bindings := (name, value) :: s.bindings.filter (·.1 != name) }

def unset (s : Scope) (name : List Char) : Scope :=
  { s with bindings := s.bindings.filter (·.1 != name) }

/-- Lets child processes inherit a variable. -/
def share (s : Scope) (name : List Char) : Scope := { s with exported := name :: s.exported }

/-- What a child process finds. -/
def inherited (s : Scope) : Scope :=
  { s with bindings := s.bindings.filter fun b => s.exported.contains b.1 }

/-- Words with a blank between each two. -/
def spaced (ws : List (List Char)) : List Char := [' '].intercalate ws

/-- The value of a parameter; none if it is unset. -/
def value? (s : Scope) (name : List Char) : Option (List Char) :=
  match name with
  | ['#'] => some (Decimal.digits s.args.length)
  | ['?'] => some (Decimal.digits s.status)
  | ['$'] => some (Decimal.digits s.self)
  | ['!'] => s.lastBackground.map Decimal.digits
  | ['@'] => some (spaced s.args)
  | ['*'] => some (spaced s.args)
  | ['0'] => some s.zero
  | _ =>
    if name.all Char.isDigit then s.args[Decimal.value name - 1]?
    else s.bindings.lookup name

end Scope

/-- Fields that are complete, and one that may still grow. -/
structure Fields where
  complete : List (List Char) := []
  current : Option (List Char) := none

namespace Fields

/-- Adds text to the current field. -/
def append (f : Fields) (cs : List Char) : Fields := { f with current := some (f.current.getD [] ++ cs) }

/-- Ends the current field. -/
def close (f : Fields) : Fields := { complete := f.complete ++ f.current.toList, current := none }

/-- Adds a value that is split at blanks. -/
def appendSplit (f : Fields) (cs : List Char) : Fields :=
  cs.foldl (fun f c => if c == ' ' || c == '\t' || c == '\n' then f.close else f.append [c]) f

/-- Adds the arguments, each as a field of its own. -/
def appendAll (f : Fields) (add : Fields → List Char → Fields) : List (List Char) → Fields
  | [] => f
  | [a] => add f a
  | a :: rest => appendAll (add f a).close add rest

/-- The fields. -/
def list (f : Fields) : List (List Char) := f.close.complete

end Fields

namespace Scope

/-- The value of a parameter, or its fallback. -/
def valueOr (s : Scope) (name : List Char) (fallback : Option (Bool × List Char)) : List Char :=
  match s.value? name, fallback with
  | some v, some (true, d) => if v.isEmpty then d else v
  | some v, _ => v
  | none, some (_, d) => d
  | none, none => []

/-- The value of an arithmetic expression; none if it has none. -/
def arithmetic? (s : Scope) (cs : List Char) : Option (List Char) :=
  (Arithmetic.evaluate? (fun name => (s.value? name).getD []) cs).map fun n =>
    (Decimal.intText n).toList

/-- Adds a part to the fields; none if an expression has no value. -/
def expandPart (s : Scope) (f : Fields) (p : Part) : Option Fields :=
  match p with
  | .text cs => some (f.append cs)
  | .quoted cs => some (f.append cs)
  | .param ['@'] _ isQuoted =>
    some (f.appendAll (if isQuoted then Fields.append else Fields.appendSplit) s.args)
  | .param name fallback isQuoted =>
    let v := s.valueOr name fallback
    some (if isQuoted then f.append v else f.appendSplit v)
  | .arithmetic cs isQuoted =>
    (s.arithmetic? cs).map fun v => if isQuoted then f.append v else f.appendSplit v

/-- The fields of a word. -/
def expand? (s : Scope) (w : Word) : Option (List (List Char)) := (w.foldlM s.expandPart {}).map Fields.list

/-- The fields of several words. -/
def expandAll? (s : Scope) (ws : List Word) : Option (List (List Char)) :=
  (ws.mapM s.expand?).map List.flatten

/-- A word as one text, without splitting. -/
def expandText? (s : Scope) (w : Word) : Option (List Char) :=
  (w.mapM fun (p : Part) => match p with
    | .text cs => some cs
    | .quoted cs => some cs
    | .param name fallback _ => some (s.valueOr name fallback)
    | .arithmetic cs _ => s.arithmetic? cs).map List.flatten

end Scope
end ProxyWatch.Shell
