import ProxyWatch.Text.Hex

/-!
Ranges of code points, and tables that map ranges to data. A table is kept as lines of text: entries are
separated by spaces, and each is a range, a colon and the data. A range is `first`, `first-last` or
`first-last/step`, in hexadecimal digits.
-/
namespace ProxyWatch

/-- Every `step`-th code point from `first` to `last`. -/
structure CodeRange where
  first : Nat
  last : Nat
  step : Nat
  deriving Repr, Inhabited

namespace CodeRange

def contains (r : CodeRange) (n : Nat) : Bool :=
  r.first ≤ n && n ≤ r.last && (n - r.first) % r.step == 0

/-- Reads a range. -/
def parse (cs : List Char) : CodeRange :=
  match cs.splitOn '-' with
  | [a, rest] =>
    match rest.splitOn '/' with
    | [b, s] => ⟨Hex.number a, Hex.number b, Hex.number s⟩
    | _ => ⟨Hex.number a, Hex.number rest, 1⟩
  | _ => ⟨Hex.number cs, Hex.number cs, 1⟩

/-- The entries of all lines. -/
def entries (lines : List String) : List (List Char) := lines.flatMap (·.toList.splitOn ' ')

/-- Reads a list of ranges. -/
def parseList (lines : List String) : List CodeRange := (entries lines).map parse

/-- Reads a table. -/
def parseTable {α : Type} (data : List Char → α) (lines : List String) : List (CodeRange × α) :=
  (entries lines).map fun entry =>
    match entry.splitOn ':' with
    | [range, value] => (parse range, data value)
    | _ => (parse entry, data [])

/-- The entry of a table for a code point. -/
def find? {α : Type} (table : List (CodeRange × α)) (n : Nat) : Option (CodeRange × α) :=
  table.find? (·.1.contains n)

end CodeRange
end ProxyWatch
