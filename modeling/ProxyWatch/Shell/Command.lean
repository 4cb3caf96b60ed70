/-!
Commands of the shell language: words with their expansions, redirections, and how commands are joined.
-/
namespace ProxyWatch.Shell

/-- A part of a word. -/
inductive Part
  | text (cs : List Char)
  | quoted (cs : List Char)
  /-- The value of a parameter. An unset one, and an empty one where the flag says so, has the fallback. -/
  | param (name : List Char) (fallback : Option (Bool × List Char)) (isQuoted : Bool)
  /-- The value of an arithmetic expression. -/
  | arithmetic (expression : List Char) (isQuoted : Bool)
  deriving DecidableEq, Repr, Inhabited

abbrev Word := List Part

/-- What a redirection does with a file descriptor. -/
inductive RedirectKind
  | input
  | truncate
  | append
  | duplicate
  deriving DecidableEq, Repr, Inhabited

structure Redirect where
  fd : Nat
  kind : RedirectKind
  target : Word
  deriving DecidableEq, Repr, Inhabited

/-- A command. -/
inductive Command
  | nothing
  | simple (assignments : List (List Char × Word)) (words : List Word) (redirects : List Redirect)
  | seq (first second : Command)
  | both (first second : Command)
  | either (first second : Command)
  | negation (c : Command)
  | background (c : Command)
  | subshell (c : Command)
  | redirected (c : Command) (redirects : List Redirect)
  | branch (test yes no : Command)
  /-- Repeats the body while the test succeeds, or fails where the flag says so. -/
  | loop (untilTrue : Bool) (test body : Command)
  /-- Runs the body for each field of some words. -/
  | each (name : List Char) (words : List Word) (body : Command)
  deriving Repr, Inhabited

def isNameStart (c : Char) : Bool := c.isAlpha || c == '_'

def isNameChar (c : Char) : Bool := c.isAlphanum || c == '_'

/-- The text can be the name of a variable. -/
def isName (cs : List Char) : Bool :=
  match cs with
  | c :: rest => isNameStart c && rest.all isNameChar
  | [] => false

end ProxyWatch.Shell
