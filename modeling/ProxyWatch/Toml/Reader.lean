import ProxyWatch.Toml.Document
import ProxyWatch.Toml.Quoted
import ProxyWatch.Toml.Scalar

/-!
Reading TOML documents. Arrays and inline tables may span lines, and may be nested eighty deep.
-/
namespace ProxyWatch.Toml

/-- Skips blanks, line breaks and comments. -/
def skip (inComment : Bool) : List Char → Option (List Char)
  | [] => some []
  | '\n' :: r => skip false r
  | '\r' :: '\n' :: r => skip false r
  | c :: r =>
    if inComment then (if isLineChar c then skip true r else none)
    else if isBlank c then skip false r
    else if c == '#' then skip true r
    else some (c :: r)

/-- Skips blanks. -/
def skipBlanks (cs : List Char) : List Char := cs.dropWhile isBlank

/-- What follows the end of a line: blanks, perhaps a comment, and a line break or the end of the text. -/
def endLine? (cs : List Char) : Option (List Char) :=
  let tail := match skipBlanks cs with
    | '#' :: r => r.dropWhile isLineChar
    | r => r
  if tail.isEmpty then some [] else afterBreak? tail

def isBareKeyChar (c : Char) : Bool := c.isAlphanum || c == '-' || c == '_'

/-- One name of a key: bare or in quotes. -/
def name? (cs : List Char) : Option (String × List Char) :=
  match cs with
  | '"' :: r => (Quoted.basic? r).map fun (s, rest) => (String.ofList s, rest)
  | '\'' :: r => (Quoted.literal? r).map fun (s, rest) => (String.ofList s, rest)
  | cs =>
    let (s, rest) := cs.span isBareKeyChar
    if s.isEmpty then none else some (String.ofList s, rest)

/-- A key: names separated by points. At most `fuel` names are read. -/
def key? (fuel : Nat) (cs : List Char) : Option (List String × List Char) :=
  match fuel with
  | 0 => none
  | fuel + 1 => do
    let (name, r) ← name? (skipBlanks cs)
    match skipBlanks r with
    | '.' :: r =>
      let (names, rest) ← key? fuel r
      return (name :: names, rest)
    | rest => return ([name], rest)

/-- A key and the text behind its equals sign. -/
def keyEquals? (cs : List Char) : Option (List String × List Char) := do
  let (names, r) ← key? cs.length cs
  match r with
  | '=' :: rest => return (names, skipBlanks rest)
  | _ => none

mutual

/-- A value inside `depth` more levels of arrays and inline tables at most. -/
def value? (fuel depth : Nat) (cs : List Char) : Option (Toml × List Char) :=
  match fuel with
  | 0 => none
  | fuel + 1 =>
    match cs with
    | '[' :: r => match depth with
      | 0 => none
      | depth + 1 => do
        let (items, rest) ← items? fuel depth (← skip false r)
        return (.arr items, rest)
    | '\x7b' :: r => match depth with
      | 0 => none
      | depth + 1 => do
        let (ms, rest) ← pairs? fuel depth [] (← skip false r)
        return (.table (finishMembers ms), rest)
    | cs => match Quoted.read? cs with
      | some (s, rest) => some (.str s, rest)
      | none => Scalar.read? cs

/-- The rest of an array. A comma may follow the last item. -/
def items? (fuel depth : Nat) (cs : List Char) : Option (List Toml × List Char) :=
  match fuel with
  | 0 => none
  | fuel + 1 =>
    match cs with
    | ']' :: rest => some ([], rest)
    | cs => do
      let (v, r) ← value? fuel depth cs
      match ← skip false r with
      | ']' :: rest => return ([v], rest)
      | ',' :: r =>
        let (vs, rest) ← items? fuel depth (← skip false r)
        return (v :: vs, rest)
      | _ => none

/-- The rest of an inline table. A comma may follow the last pair. -/
def pairs? (fuel depth : Nat) (ms : Members) (cs : List Char) : Option (Members × List Char) :=
  match fuel with
  | 0 => none
  | fuel + 1 =>
    match cs with
    | '\x7d' :: rest => some (ms, rest)
    | cs => do
      let (names, r) ← keyEquals? cs
      let (v, r) ← value? fuel depth r
      let ms ← ms.insert v names
      match ← skip false r with
      | '\x7d' :: rest => return (ms, rest)
      | ',' :: r => pairs? fuel depth ms (← skip false r)
      | _ => none

end

/-- How deep arrays and inline tables may be nested. -/
def maxDepth : Nat := 80

/-- A header behind its first bracket: the names, whether it opens an item of an array, and the rest. -/
def header? (cs : List Char) : Option (List String × Bool × List Char) := do
  match cs with
  | '[' :: r =>
    let (names, r) ← key? r.length r
    match r with
    | ']' :: ']' :: rest => return (names, true, rest)
    | _ => none
  | r =>
    let (names, r) ← key? r.length r
    match r with
    | ']' :: rest => return (names, false, rest)
    | _ => none

/-- Reads line after line. Pairs are added to the table at the path. -/
def lines? (fuel : Nat) (doc : Members) (path : List String) (cs : List Char) : Option Members :=
  match fuel with
  | 0 => none
  | fuel + 1 => do
    match ← skip false cs with
    | [] => return doc
    | '[' :: r =>
      let (names, isItem, r) ← header? r
      let doc ← if isItem then doc.openItem names else doc.openTable names
      lines? fuel doc names (← endLine? r)
    | cs =>
      let (names, r) ← keyEquals? cs
      let (v, r) ← value? (2 * r.length + 2) maxDepth r
      let doc ← doc.update (·.insert v names) path
      lines? fuel doc path (← endLine? r)

/-- The text without a byte order mark. -/
def dropMark : List Char → List Char
  | '\uFEFF' :: r => r
  | r => r

/-- The members of the document that a text holds. -/
def parse? (text : String) : Option (List (String × Toml)) :=
  (lines? (text.length + 1) [] [] (dropMark text.toList)).map finishMembers

end ProxyWatch.Toml
