import ProxyWatch.Json
import ProxyWatch.Text.Decimal
import ProxyWatch.Text.Hex

/-!
Reading JSON text. Nesting is not limited.
-/
namespace ProxyWatch.Json

/-- The four characters that may stand between tokens. -/
def isSpace (c : Char) : Bool := c == ' ' || c == '\n' || c == '\t' || c == '\r'

def skipSpace (cs : List Char) : List Char := cs.dropWhile isSpace

/-- The number that four hexadecimal digits write. -/
def hex4? (a b c d : Char) : Option Nat := do
  return (((← Hex.value? a) * 16 + (← Hex.value? b)) * 16 + (← Hex.value? c)) * 16 + (← Hex.value? d)

def isHighSurrogate (u : Nat) : Bool := 0xD800 ≤ u && u ≤ 0xDBFF

def isLowSurrogate (u : Nat) : Bool := 0xDC00 ≤ u && u ≤ 0xDFFF

/-- The character that a surrogate pair stands for. -/
def pairChar (high low : Nat) : Char :=
  Char.ofNat (0x10000 + (high - 0xD800) * 0x400 + (low - 0xDC00))

/-- The character of a one-letter escape. -/
def shortEscape? : Char → Option Char
  | '"' => some '"'
  | '\\' => some '\\'
  | '/' => some '/'
  | 'b' => some '\x08'
  | 'f' => some '\x0c'
  | 'n' => some '\n'
  | 'r' => some '\r'
  | 't' => some '\t'
  | _ => none

/-- The text up to the closing quote, none in its place if it holds an unpaired surrogate, and what
follows the quote. -/
def stringBody? : List Char → Option (Option (List Char) × List Char)
  | [] => none
  | '"' :: r => some (some [], r)
  | '\\' :: 'u' :: a :: b :: c :: d :: '\\' :: 'u' :: e :: f :: g :: h :: r => do
    let u ← hex4? a b c d
    let v ← hex4? e f g h
    if isHighSurrogate u && isLowSurrogate v then
      let (body, rest) ← stringBody? r
      return (body.map (pairChar u v :: ·), rest)
    else
      let (body, rest) ← stringBody? ('\\' :: 'u' :: e :: f :: g :: h :: r)
      if isHighSurrogate u || isLowSurrogate u then return (none, rest)
      else return (body.map (Char.ofNat u :: ·), rest)
  | '\\' :: 'u' :: a :: b :: c :: d :: r => do
    let u ← hex4? a b c d
    let (body, rest) ← stringBody? r
    if isHighSurrogate u || isLowSurrogate u then return (none, rest)
    else return (body.map (Char.ofNat u :: ·), rest)
  | '\\' :: c :: r => do
    let e ← shortEscape? c
    let (body, rest) ← stringBody? r
    return (body.map (e :: ·), rest)
  | c :: r => do
    if c == '\\' || c.toNat < 0x20 then none
    else
      let (body, rest) ← stringBody? r
      return (body.map (c :: ·), rest)

/-- The digits of a fraction after a point; none if the point has no digit behind it. -/
def fractionDigits? : List Char → Option (List Char × List Char)
  | '.' :: r =>
    let (ds, rest) := Decimal.run r
    if ds.isEmpty then none else some (ds, rest)
  | r => some ([], r)

/-- The exponent, and whether one is written; none if its digits are missing. -/
def exponent? : List Char → Option (Int × Bool × List Char)
  | c :: r =>
    if c == 'e' || c == 'E' then
      let (negative, r) := match r with
        | '-' :: r => (true, r)
        | '+' :: r => (false, r)
        | r => (false, r)
      let (ds, rest) := Decimal.run r
      let n : Int := Decimal.value ds
      if ds.isEmpty then none else some (if negative then -n else n, true, rest)
    else some (0, false, c :: r)
  | [] => some (0, false, [])

/-- A number. A leading zero stands alone in front of the point. -/
def number? (cs : List Char) : Option (Json × List Char) := do
  let (negative, r) := match cs with
    | '-' :: r => (true, r)
    | r => (false, r)
  let (whole, r) := Decimal.run r
  if whole.isEmpty || (whole.head? == some '0' && whole.length > 1) then none
  else
    let (fraction, r) ← fractionDigits? r
    let (exponent, written, r) ← exponent? r
    let n := Decimal.value (whole ++ fraction)
    if fraction.isEmpty && !written && !(negative && n == 0) then
      return (int (if negative then -(n : Int) else n), r)
    else return (real negative n (exponent - fraction.length), r)

/-- What follows the given word. -/
def word? (w : String) (cs : List Char) : Option (List Char) :=
  if w.toList.isPrefixOf cs then some (cs.drop w.toList.length) else none

mutual

/-- A value after optional white space; `fuel` bounds the nesting. -/
def value? (fuel : Nat) (cs : List Char) : Option (Json × List Char) :=
  match fuel with
  | 0 => none
  | fuel + 1 =>
    match skipSpace cs with
    | '"' :: r => (stringBody? r).map fun (body, rest) =>
      (match body with | some s => str (String.ofList s) | none => unreadable, rest)
    | '[' :: r =>
      match skipSpace r with
      | ']' :: rest => some (arr [], rest)
      | r => (items? fuel r).map fun (js, rest) => (arr js, rest)
    | '\x7b' :: r =>
      match skipSpace r with
      | '\x7d' :: rest => some (obj [], rest)
      | r => (members? fuel r).map fun (ms, rest) =>
        (match ms with | some ms => obj ms | none => unreadable, rest)
    | 'n' :: r => (word? "ull" r).map fun rest => (null, rest)
    | 't' :: r => (word? "rue" r).map fun rest => (bool true, rest)
    | 'f' :: r => (word? "alse" r).map fun rest => (bool false, rest)
    | r => number? r

/-- One or more values up to the closing bracket. -/
def items? (fuel : Nat) (cs : List Char) : Option (List Json × List Char) :=
  match fuel with
  | 0 => none
  | fuel + 1 => do
    let (j, r) ← value? fuel cs
    match skipSpace r with
    | ']' :: rest => return ([j], rest)
    | ',' :: r =>
      let (js, rest) ← items? fuel r
      return (j :: js, rest)
    | _ => none

/-- One or more members up to the closing brace; none in their place if a name is no text. -/
def members? (fuel : Nat) (cs : List Char) : Option (Option (List (String × Json)) × List Char) :=
  match fuel with
  | 0 => none
  | fuel + 1 =>
    match skipSpace cs with
    | '"' :: r => do
      let (name, r) ← stringBody? r
      match skipSpace r with
      | ':' :: r =>
        let (j, r) ← value? fuel r
        match skipSpace r with
        | '\x7d' :: rest =>
          return (name.map fun n => [(String.ofList n, j)], rest)
        | ',' :: r =>
          let (ms, rest) ← members? fuel r
          return (do return (String.ofList (← name), j) :: (← ms), rest)
        | _ => none
      | _ => none
    | _ => none

end

/-- The document that a text holds, with nothing but white space behind it. -/
def parse? (cs : List Char) : Option Json := do
  let (j, rest) ← value? (cs.length + 1) cs
  if (skipSpace rest).isEmpty then some j else none

end ProxyWatch.Json
