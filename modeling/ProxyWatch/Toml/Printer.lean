import ProxyWatch.Number.Shortest
import ProxyWatch.Text.Hex
import ProxyWatch.Toml

/-!
Writing TOML documents. Strings take the plainest form that holds them; arrays of several items stand one
item a line; tables follow the pairs of the table around them.
-/
namespace ProxyWatch.Toml

/-- What decides the form in which a string is written. -/
structure TextTraits where
  /-- It holds control characters other than tabs and line feeds. -/
  hasControls : Bool
  hasBackslash : Bool
  hasLineFeed : Bool
  /-- The longest run of single quotes. -/
  singleQuotes : Nat
  /-- The longest run of double quotes. -/
  doubleQuotes : Nat

/-- The length of the longest run of a character. -/
def longestRun (c : Char) (cs : List Char) : Nat :=
  (cs.foldl (fun (longest, current) d =>
    if d == c then (max longest (current + 1), current + 1) else (longest, 0)) (0, 0)).1

def TextTraits.of (cs : List Char) : TextTraits where
  hasControls := cs.any fun c => (c.toNat < 0x20 || c.toNat = 0x7F) && c != '\t' && c != '\n'
  hasBackslash := cs.contains '\\'
  hasLineFeed := cs.contains '\n'
  singleQuotes := longestRun '\'' cs
  doubleQuotes := longestRun '"' cs

/-- The forms of strings. -/
inductive TextForm
  | basic
  | literal
  | longBasic
  | longLiteral
  deriving DecidableEq, Repr

/-- The plainest form of a string: without escapes if there is such a form. -/
def TextForm.of (t : TextTraits) : TextForm :=
  if !t.hasControls && !t.hasBackslash && t.doubleQuotes = 0 && !t.hasLineFeed then basic
  else if !t.hasControls && t.singleQuotes = 0 && !t.hasLineFeed then literal
  else if !t.hasControls && !t.hasBackslash && t.doubleQuotes ≤ 2 then longBasic
  else if !t.hasControls && t.singleQuotes ≤ 2 then longLiteral
  else if t.hasLineFeed then longBasic
  else basic

/-- A character that is no quote, in a string with escapes. A line feed stays in a long string. -/
def escapeChar (long : Bool) (c : Char) : List Char :=
  match c with
  | '\x08' => ['\\', 'b']
  | '\t' => ['\\', 't']
  | '\n' => if long then ['\n'] else ['\\', 'n']
  | '\x0c' => ['\\', 'f']
  | '\r' => ['\\', 'r']
  | '\\' => ['\\', '\\']
  | c =>
    if c.toNat < 0x20 || c.toNat = 0x7F then
      ['\\', 'u', '0', '0', Hex.upperDigit (c.toNat / 16), Hex.upperDigit (c.toNat % 16)]
    else [c]

/-- The inside of a basic string; `quotes` counts the bare quotes just written, of which a long string
may hold two in a row. -/
def escapeChars (long : Bool) (quotes : Nat) : List Char → List Char
  | [] => []
  | '"' :: r =>
    if long && quotes < 2 then '"' :: escapeChars long (quotes + 1) r
    else '\\' :: '"' :: escapeChars long 0 r
  | c :: r => escapeChar long c ++ escapeChars long 0 r

/-- A string in a given form. A long string with line feeds starts on a line of its own. -/
def quoteAs (form : TextForm) (cs : List Char) : List Char :=
  let start := if cs.contains '\n' then ['\n'] else []
  match form with
  | .basic => '"' :: escapeChars false 0 cs ++ ['"']
  | .literal => '\'' :: cs ++ ['\'']
  | .longBasic => "\"\"\"".toList ++ start ++ escapeChars true 0 cs ++ "\"\"\"".toList
  | .longLiteral => "'''".toList ++ start ++ cs ++ "'''".toList

/-- A string. -/
def quote (s : String) : List Char := quoteAs (.of (.of s.toList)) s.toList

/-- A name: bare if it can be, and never over several lines. -/
def keyChars (name : String) : List Char :=
  let cs := name.toList
  let t := TextTraits.of cs
  if !cs.isEmpty && cs.all fun c => c.isAlphanum || c == '-' || c == '_' then cs
  else if !t.hasControls && !t.hasBackslash && t.doubleQuotes = 0 && !t.hasLineFeed then
    quoteAs .basic cs
  else if !t.hasControls && t.singleQuotes = 0 && !t.hasLineFeed then quoteAs .literal cs
  else quoteAs .basic cs

mutual

/-- A value after an equals sign or in an array, inside `level` arrays. -/
def chars (level : Nat) : Toml → List Char
  | str s => quote s
  | int i => (Decimal.intText i).toList
  | float x => x.text
  | bool b => (if b then "true" else "false").toList
  | moment s => s.toList
  | arr [] => "[]".toList
  | arr [v] => '[' :: chars level v ++ [']']
  | arr (v :: w :: vs) =>
    '[' :: '\n' :: arrayLines level (v :: w :: vs) ++ List.replicate (4 * level) ' ' ++ [']']
  | table ms => "\x7b ".toList ++ pairChars level ms ++ " \x7d".toList

/-- Items one a line. -/
def arrayLines (level : Nat) : List Toml → List Char
  | [] => []
  | v :: vs =>
    List.replicate (4 * (level + 1)) ' ' ++ chars (level + 1) v ++ ',' :: '\n' :: arrayLines level vs

/-- Pairs in a line. -/
def pairChars (level : Nat) : List (String × Toml) → List Char
  | [] => []
  | [(n, v)] => keyChars n ++ " = ".toList ++ chars level v
  | (n, v) :: ms => keyChars n ++ " = ".toList ++ chars level v ++ ", ".toList ++ pairChars level ms

end

/-- The value is written as a table, or as tables, of its own. -/
def isSection : Toml → Bool
  | table _ => true
  | arr (table _ :: _) => true
  | _ => false

/-- The pairs of a table, one a line. -/
def ownLines (ms : List (String × Toml)) : List Char :=
  (ms.filter fun m => !m.2.isSection).flatMap fun (n, v) =>
    keyChars n ++ " = ".toList ++ chars 0 v ++ ['\n']

/-- A line with a header. -/
def headerLine (isItem : Bool) (path : List String) : List Char :=
  let names := ['.'].intercalate (path.map keyChars)
  if isItem then '[' :: '[' :: names ++ "]]\n".toList else '[' :: names ++ "]\n".toList

mutual

/-- The parts of a document that a table takes: its own lines, then those of the tables in it. -/
def parts (path : List String) (header : List Char) : Toml → List (List Char)
  | table ms => (header ++ ownLines ms) :: memberParts path ms
  | _ => []

def memberParts (path : List String) : List (String × Toml) → List (List Char)
  | [] => []
  | (n, table ms) :: rest =>
    parts (path ++ [n]) (headerLine false (path ++ [n])) (table ms) ++ memberParts path rest
  | (n, arr vs) :: rest => itemParts (path ++ [n]) vs ++ memberParts path rest
  | _ :: rest => memberParts path rest

def itemParts (path : List String) : List Toml → List (List Char)
  | [] => []
  | v :: vs => parts path (headerLine true path) v ++ itemParts path vs

end

/-- The text of a document, its parts separated by empty lines. -/
def print (ms : List (String × Toml)) : String :=
  String.ofList (['\n'].intercalate ((parts [] [] (table ms)).filter fun p => !p.isEmpty))

end ProxyWatch.Toml
