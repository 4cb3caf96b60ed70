import ProxyWatch.Shell.Token

/-!
Reading shell scripts: lists of commands joined by `;`, `&`, `&&` and `||`, and the compound commands.
-/
namespace ProxyWatch.Shell.Script

/-- Words that begin, continue or end compound commands where a command may begin. -/
def reserved : List String :=
  ["if", "then", "elif", "else", "fi", "while", "until", "for", "do", "done", "!", "\x7b", "\x7d"]

/-- The reserved word that a token is. -/
def keyword? : List Token → Option String
  | .word [.text cs] :: _ => if reserved.contains (String.ofList cs) then some (String.ofList cs) else none
  | .operator "(" :: _ => some "("
  | .operator ")" :: _ => some ")"
  | _ => none

/-- Words that end a list of commands. -/
def closers : List String := ["then", "elif", "else", "fi", "do", "done", "\x7d", ")"]

/-- A list of commands ends here. -/
def isEnd (ts : List Token) : Bool := ts.isEmpty || (keyword? ts).any closers.contains

/-- The rest after an expected reserved word. -/
def expect (name : String) (ts : List Token) : Option (List Token) :=
  if keyword? ts = some name then some ts.tail else none

def skipLineEnds (ts : List Token) : List Token := ts.dropWhile (· = .operator ";")

/-- The variable and the value that a word assigns. -/
def assignment? (w : Word) : Option (List Char × Word) :=
  match w with
  | .text cs :: parts =>
    match cs.span (· != '=') with
    | (name, _ :: value) =>
      if isName name then some (name, if value.isEmpty then parts else .text value :: parts) else none
    | _ => none
  | _ => none

/-- Reads the redirections after a compound command. -/
def redirects : List Token → Option (List Redirect × List Token)
  | .redirect fd kind :: .word w :: rest =>
    (redirects rest).map fun (rs, after) =>
      ({ fd := fd.getD (if kind = .input then 0 else 1), kind, target := w } :: rs, after)
  | .redirect .. :: _ => none
  | ts => some ([], ts)

/-- Reads a simple command; assignments count as such before the first other word. -/
def simple (assigned : List (List Char × Word)) (words : List Word) (rs : List Redirect) :
    List Token → Option (Command × List Token)
  | .redirect fd kind :: .word w :: rest =>
    let r : Redirect := { fd := fd.getD (if kind = .input then 0 else 1), kind, target := w }
    simple assigned words (rs ++ [r]) rest
  | .redirect .. :: _ => none
  | .word w :: rest =>
    match assignment? w, words with
    | some a, [] => simple (assigned ++ [a]) words rs rest
    | _, _ => simple assigned (words ++ [w]) rs rest
  | ts => some (.simple assigned words rs, ts)

/-- Puts redirections around a compound command. -/
def withRedirects (c : Command) (ts : List Token) : Option (Command × List Token) :=
  (redirects ts).map fun (rs, after) => (if rs.isEmpty then c else .redirected c rs, after)

mutual

/-- Reads a list of commands up to where it ends. -/
def list : Nat → List Token → Option (Command × List Token)
  | 0, _ => none
  | fuel + 1, ts => do
    let ts := skipLineEnds ts
    if isEnd ts then return (.nothing, ts)
    let (c, ts) ← chain fuel ts
    match ts with
    | .operator "&" :: rest =>
      let (d, rest) ← list fuel rest
      return (.seq (.background c) d, rest)
    | .operator ";" :: rest =>
      let (d, rest) ← list fuel rest
      return (.seq c d, rest)
    | _ => return (c, ts)

/-- Reads commands joined by `&&` and `||`, from left to right. -/
def chain : Nat → List Token → Option (Command × List Token)
  | 0, _ => none
  | fuel + 1, ts => do
    let (c, ts) ← command fuel ts
    joined fuel c ts

/-- Joins further commands to one. -/
def joined : Nat → Command → List Token → Option (Command × List Token)
  | 0, _, _ => none
  | fuel + 1, c, ts => do
    match ts with
    | .operator "&&" :: rest =>
      let (d, rest) ← command fuel (skipLineEnds rest)
      joined fuel (.both c d) rest
    | .operator "||" :: rest =>
      let (d, rest) ← command fuel (skipLineEnds rest)
      joined fuel (.either c d) rest
    | _ => return (c, ts)

/-- Reads a simple or compound command. -/
def command : Nat → List Token → Option (Command × List Token)
  | 0, _ => none
  | fuel + 1, ts => do
    match keyword? ts with
    | none =>
      if isEnd ts then none
      let (c, rest) ← simple [] [] [] ts
      if rest.length = ts.length then none
      return (c, rest)
    | some "!" =>
      let (c, rest) ← command fuel ts.tail
      return (.negation c, rest)
    | some "\x7b" =>
      let (c, rest) ← list fuel ts.tail
      withRedirects c (← expect "\x7d" rest)
    | some "(" =>
      let (c, rest) ← list fuel ts.tail
      withRedirects (.subshell c) (← expect ")" rest)
    | some "if" =>
      let (c, rest) ← conditional fuel ts.tail
      withRedirects c rest
    | some "while" => repetition fuel false ts.tail
    | some "until" => repetition fuel true ts.tail
    | some "for" =>
      match ts.tail with
      | .word [.text name] :: .word [.text ['i', 'n']] :: rest =>
        let (c, rest) ← simple [] [] [] rest
        let words := match c with
          | .simple _ words _ => words
          | _ => []
        let (body, rest) ← list fuel (← expect "do" (skipLineEnds rest))
        withRedirects (.each name words body) (← expect "done" rest)
      | _ => none
    | some _ => none

/-- Reads a conditional from its test on. -/
def conditional : Nat → List Token → Option (Command × List Token)
  | 0, _ => none
  | fuel + 1, ts => do
    let (test, rest) ← list fuel ts
    let (yes, rest) ← list fuel (← expect "then" rest)
    match keyword? rest with
    | some "elif" =>
      let (no, rest) ← conditional fuel rest.tail
      return (.branch test yes no, rest)
    | some "else" =>
      let (no, rest) ← list fuel rest.tail
      return (.branch test yes no, ← expect "fi" rest)
    | _ => return (.branch test yes .nothing, ← expect "fi" rest)

/-- Reads a loop from its test on. -/
def repetition : Nat → Bool → List Token → Option (Command × List Token)
  | 0, _, _ => none
  | fuel + 1, untilTrue, ts => do
    let (test, rest) ← list fuel ts
    let (body, rest) ← list fuel (← expect "do" rest)
    withRedirects (.loop untilTrue test body) (← expect "done" rest)

end

/-- Reads a script; none if it is malformed. -/
def parse? (script : List Char) : Option Command := do
  let ts ← Token.read script
  let (c, rest) ← list (6 * ts.length + 6) ts
  if rest.isEmpty then return c else none

end ProxyWatch.Shell.Script
