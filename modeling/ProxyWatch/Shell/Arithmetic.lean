import ProxyWatch.Shell.Command
import ProxyWatch.Text.Decimal

/-!
Integer expressions of the shell: sums, products, comparisons, parentheses, and variables, which are zero when
they hold no number.
-/
namespace ProxyWatch.Shell.Arithmetic

/-- The integer that a text writes, blanks around it aside. -/
def integer? (cs : List Char) : Option Int :=
  let trim := fun (cs : List Char) => cs.dropWhile Char.isWhitespace
  match (trim (trim cs).reverse).reverse with
  | '-' :: ds => if !ds.isEmpty && ds.all Char.isDigit then some (-(Decimal.value ds : Int)) else none
  | ds => if !ds.isEmpty && ds.all Char.isDigit then some (Decimal.value ds) else none

/-- Operators of a level, loosest first. -/
def levels : List (List (List Char)) :=
  [["==".toList, "!=".toList], ["<=".toList, ">=".toList, "<".toList, ">".toList],
    ["+".toList, "-".toList], ["*".toList, "/".toList, "%".toList]]

/-- Applies an operator; none for a division by zero. -/
def combine? (op : List Char) (a b : Int) : Option Int :=
  let truth := fun (p : Bool) => some (if p then (1 : Int) else 0)
  match String.ofList op with
  | "==" => truth (a == b)
  | "!=" => truth (a != b)
  | "<=" => truth (decide (a ≤ b))
  | ">=" => truth (decide (b ≤ a))
  | "<" => truth (decide (a < b))
  | ">" => truth (decide (b < a))
  | "+" => some (a + b)
  | "-" => some (a - b)
  | "*" => some (a * b)
  | "/" => if b = 0 then none else some (a.tdiv b)
  | "%" => if b = 0 then none else some (a.tmod b)
  | _ => none

def skip (cs : List Char) : List Char := cs.dropWhile Char.isWhitespace

mutual

/-- Reads the operands of the given levels, and joins those of the first one. -/
def sum (value : List Char → List Char) : Nat → List (List (List Char)) → List Char →
    Option (Int × List Char)
  | 0, _, _ => none
  | fuel + 1, [], cs => operand value fuel (skip cs)
  | fuel + 1, ops :: tighter, cs => do
    let (a, rest) ← sum value fuel tighter cs
    joined value fuel ops tighter a rest

/-- Joins further operands from left to right. -/
def joined (value : List Char → List Char) : Nat → List (List Char) → List (List (List Char)) → Int →
    List Char → Option (Int × List Char)
  | 0, _, _, _, _ => none
  | fuel + 1, ops, tighter, a, cs =>
    match ops.find? (·.isPrefixOf (skip cs)) with
    | none => some (a, cs)
    | some op => do
      let (b, rest) ← sum value fuel tighter ((skip cs).drop op.length)
      joined value fuel ops tighter (← combine? op a b) rest

/-- Reads a number, a variable, or an expression in parentheses or behind a sign. -/
def operand (value : List Char → List Char) : Nat → List Char → Option (Int × List Char)
  | 0, _ => none
  | fuel + 1, cs =>
    match cs with
    | '(' :: rest => do
      let (a, rest) ← sum value fuel levels rest
      match skip rest with
      | ')' :: rest => some (a, rest)
      | _ => none
    | '-' :: rest => (operand value fuel (skip rest)).map fun (a, rest) => (-a, rest)
    | '+' :: rest => operand value fuel (skip rest)
    | '$' :: rest => operand value fuel rest
    | c :: _ =>
      if c.isDigit then
        let (digits, rest) := cs.span Char.isDigit
        some (Decimal.value digits, rest)
      else if isNameStart c then
        let (name, rest) := cs.span isNameChar
        some ((integer? (value name)).getD 0, rest)
      else none
    | [] => none

end

/-- The value of an expression, given the values of variables. -/
def evaluate? (value : List Char → List Char) (cs : List Char) : Option Int := do
  let (a, rest) ← sum value (8 * cs.length + 16) levels cs
  if (skip rest).isEmpty then return a else none

end ProxyWatch.Shell.Arithmetic
