import ProxyWatch.Json
import ProxyWatch.Text.Decimal
import ProxyWatch.Text.Hex

/-!
Writing JSON text, compact or with two spaces per level.
-/
namespace ProxyWatch.Json

/-- A character inside a string literal. Quotes, backslashes and control characters are escaped. -/
def escape (c : Char) : List Char :=
  match c with
  | '"' => ['\\', '"']
  | '\\' => ['\\', '\\']
  | '\x08' => ['\\', 'b']
  | '\x0c' => ['\\', 'f']
  | '\n' => ['\\', 'n']
  | '\r' => ['\\', 'r']
  | '\t' => ['\\', 't']
  | c => if c.toNat < 0x20 then
      ['\\', 'u', '0', '0', Hex.lowerDigit (c.toNat / 16), Hex.lowerDigit (c.toNat % 16)]
    else [c]

/-- A string literal. -/
def quoted (s : String) : List Char := '"' :: s.toList.flatMap escape ++ ['"']

/-- An integer numeral. -/
def intChars (i : Int) : List Char :=
  (if i < 0 then ['-'] else []) ++ Decimal.digits i.natAbs

/-- The line break before an item at the given level, if lines are broken. -/
def breakLine (pretty : Bool) (level : Nat) : List Char :=
  if pretty then '\n' :: List.replicate (2 * level) ' ' else []

mutual

/-- A value whose items stand one level deeper than `level`. -/
def chars (pretty : Bool) (level : Nat) : Json → List Char
  | null => ['n', 'u', 'l', 'l']
  | bool b => if b then ['t', 'r', 'u', 'e'] else ['f', 'a', 'l', 's', 'e']
  | int i => intChars i
  | real negative digits exponent =>
    (if negative then ['-'] else []) ++ Decimal.digits digits ++ 'e' :: intChars exponent
  | str s => quoted s
  | unreadable => ['"', '\\', 'u', 'd', '8', '0', '0', '"']
  | arr [] => ['[', ']']
  | arr (j :: js) =>
    '[' :: breakLine pretty (level + 1) ++ chars pretty (level + 1) j ++
      moreItems pretty level js
  | obj [] => ['\x7b', '\x7d']
  | obj ((n, j) :: ms) =>
    '\x7b' :: breakLine pretty (level + 1) ++ quoted n ++
      (if pretty then [':', ' '] else [':']) ++ chars pretty (level + 1) j ++
      moreMembers pretty level ms

/-- The items after the first one, and the closing bracket. -/
def moreItems (pretty : Bool) (level : Nat) : List Json → List Char
  | [] => breakLine pretty level ++ [']']
  | j :: js =>
    ',' :: breakLine pretty (level + 1) ++ chars pretty (level + 1) j ++ moreItems pretty level js

/-- The members after the first one, and the closing brace. -/
def moreMembers (pretty : Bool) (level : Nat) : List (String × Json) → List Char
  | [] => breakLine pretty level ++ ['\x7d']
  | (n, j) :: ms =>
    ',' :: breakLine pretty (level + 1) ++ quoted n ++
      (if pretty then [':', ' '] else [':']) ++ chars pretty (level + 1) j ++
      moreMembers pretty level ms

end

/-- The value on one line without spaces. -/
def compact (j : Json) : String := String.ofList (chars false 0 j)

/-- The value over several lines. -/
def pretty (j : Json) : String := String.ofList (chars true 0 j)

end ProxyWatch.Json
