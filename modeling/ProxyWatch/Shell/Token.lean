import ProxyWatch.Shell.Command
import ProxyWatch.Text.Decimal

/-!
The tokens of a shell script.
-/
namespace ProxyWatch.Shell

/-- A token. -/
inductive Token
  | word (w : Word)
  /-- A line end counts as one of these. -/
  | operator (name : String)
  | redirect (fd : Option Nat) (kind : RedirectKind)
  deriving DecidableEq, Repr, Inhabited

namespace Token

/-- Ends a word unless it is quoted. -/
def isBreak (c : Char) : Bool := " \t\n;&|<>()".toList.contains c

/-- Ends a run of plain text within a word. -/
def isSpecial (c : Char) : Bool := isBreak c || c == '\'' || c == '"' || c == '\\' || c == '$'

/-- A parameter that is named by one character other than a letter. -/
def isSpecialParam (c : Char) : Bool := c.isDigit || "#?$!@*".toList.contains c

/-- The text before two closing parentheses that close none of the text's own, and the rest after them. -/
def beforeClosing (depth : Nat) : List Char → Option (List Char × List Char)
  | c :: rest =>
    let more := fun (depth : Nat) => (beforeClosing depth rest).map fun (inside, after) => (c :: inside, after)
    match c, depth, rest with
    | '(', depth, _ => more (depth + 1)
    | ')', 0, ')' :: after => some ([], after)
    | ')', 0, _ => none
    | ')', depth + 1, _ => more depth
    | _, depth, _ => more depth
  | [] => none

/-- A parameter with what stands between braces around it. -/
def braced (isQuoted : Bool) (inside : List Char) : Option Part :=
  let (name, rest) := match inside with
    | c :: rest => if isSpecialParam c then ([c], rest) else inside.span isNameChar
    | [] => ([], [])
  if name.isEmpty then none
  else match rest with
    | [] => some (.param name none isQuoted)
    | '-' :: fallback => some (.param name (some (false, fallback)) isQuoted)
    | ':' :: '-' :: fallback => some (.param name (some (true, fallback)) isQuoted)
    | _ => none

/-- What a dollar sign begins, given the text after it. -/
def expansion (isQuoted : Bool) (cs : List Char) : Option (Part × List Char) :=
  match cs with
  | '(' :: '(' :: rest =>
    (beforeClosing 0 rest).map fun (inside, after) => (.arithmetic inside isQuoted, after)
  | '(' :: _ => none
  | '\x7b' :: rest =>
    match rest.span (· != '\x7d') with
    | (inside, _ :: after) => (braced isQuoted inside).map (·, after)
    | (_, []) => none
  | c :: rest =>
    if isNameStart c then
      let (name, after) := cs.span isNameChar
      some (.param name none isQuoted, after)
    else if isSpecialParam c then some (.param [c] none isQuoted, rest)
    else some (.quoted ['$'], cs)
  | [] => some (.quoted ['$'], [])

/-- The parts up to a closing double quote, and the rest after it. -/
def doubleQuoted : Nat → List Char → Option (List Part × List Char)
  | 0, _ => none
  | fuel + 1, cs =>
    match cs with
    | [] => none
    | '"' :: rest => some ([], rest)
    | '\\' :: '\n' :: rest => doubleQuoted fuel rest
    | '\\' :: c :: rest =>
      let shown := if c == '$' || c == '"' || c == '\\' || c.toNat == 0x60 then [c] else ['\\', c]
      (doubleQuoted fuel rest).map fun (ps, after) => (.quoted shown :: ps, after)
    | '$' :: rest =>
      (expansion true rest).bind fun (p, rest) =>
        (doubleQuoted fuel rest).map fun (ps, after) => (p :: ps, after)
    | c :: rest => (doubleQuoted fuel rest).map fun (ps, after) => (.quoted [c] :: ps, after)

/-- The parts of a word, and the rest after it. -/
def wordParts : Nat → List Char → Option (List Part × List Char)
  | 0, _ => none
  | fuel + 1, cs =>
    let more := fun (ps : List Part) (rest : List Char) =>
      (wordParts fuel rest).map fun (qs, after) => (ps ++ qs, after)
    match cs with
    | [] => some ([], [])
    | '\'' :: rest =>
      match rest.span (· != '\'') with
      | (inside, _ :: after) => more [.quoted inside] after
      | (_, []) => none
    | '"' :: rest =>
      (doubleQuoted fuel rest).bind fun (ps, after) => more (if ps.isEmpty then [.quoted []] else ps) after
    | '\\' :: '\n' :: rest => more [] rest
    | '\\' :: c :: rest => more [.quoted [c]] rest
    | '$' :: rest => (expansion false rest).bind fun (p, after) => more [p] after
    | c :: rest =>
      if isBreak c then some ([], cs)
      else
        let (plain, after) := rest.span (!isSpecial ·)
        more [.text (c :: plain)] after

/-- Reads a token that begins with an operator's character. -/
def operator? (cs : List Char) : Option (Token × List Char) :=
  match cs with
  | '&' :: '&' :: rest => some (.operator "&&", rest)
  | '&' :: rest => some (.operator "&", rest)
  | '|' :: '|' :: rest => some (.operator "||", rest)
  | ';' :: rest => some (.operator ";", rest)
  | '\n' :: rest => some (.operator ";", rest)
  | '(' :: rest => some (.operator "(", rest)
  | ')' :: rest => some (.operator ")", rest)
  | _ => none

/-- Reads a redirection for a file descriptor. -/
def redirect? (fd : Option Nat) (cs : List Char) : Option (Token × List Char) :=
  match cs with
  | '>' :: '>' :: rest => some (.redirect fd .append, rest)
  | '>' :: '&' :: rest => some (.redirect fd .duplicate, rest)
  | '>' :: rest => some (.redirect fd .truncate, rest)
  | '<' :: rest => some (.redirect fd .input, rest)
  | _ => none

/-- Reads a redirection, with the number of a file descriptor before it. -/
def numberedRedirect? (cs : List Char) : Option (Token × List Char) :=
  match cs.span Char.isDigit with
  | ([], rest) => redirect? none rest
  | (digits, rest) => redirect? (some (Decimal.value digits)) rest

def readFrom : Nat → List Char → Option (List Token)
  | 0, _ => none
  | fuel + 1, cs =>
    match cs with
    | [] => some []
    | ' ' :: rest => readFrom fuel rest
    | '\t' :: rest => readFrom fuel rest
    | '\\' :: '\n' :: rest => readFrom fuel rest
    | '#' :: rest => readFrom fuel (rest.dropWhile (· != '\n'))
    | _ =>
      match operator? cs <|> numberedRedirect? cs with
      | some (t, rest) => (readFrom fuel rest).map (t :: ·)
      | none =>
        (wordParts (cs.length + 1) cs).bind fun (ps, rest) =>
          if ps.isEmpty then none else (readFrom fuel rest).map (.word ps :: ·)

/-- The tokens of a script; none if it cannot be read. -/
def read (script : List Char) : Option (List Token) := readFrom (script.length + 1) script

end Token
end ProxyWatch.Shell
