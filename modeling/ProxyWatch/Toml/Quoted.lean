import ProxyWatch.Text.Hex

/-!
Quoted text of TOML documents: basic strings with escapes, literal strings without, and the forms of both
that span lines.
-/
namespace ProxyWatch.Toml

/-- A blank inside a line. -/
def isBlank (c : Char) : Bool := c == ' ' || c == '\t'

/-- A character that may stand inside a line: no control character but the tab. -/
def isLineChar (c : Char) : Bool := c == '\t' || (c.toNat ≥ 0x20 && c.toNat ≠ 0x7F)

/-- The text behind a line break. -/
def afterBreak? : List Char → Option (List Char)
  | '\n' :: r => some r
  | '\r' :: '\n' :: r => some r
  | _ => none

namespace Quoted

/-- The character with a code point, if there is one. -/
def charOf? (n : Nat) : Option Char := if n.isValidChar then some (Char.ofNat n) else none

/-- The character with a code point of `width` hexadecimal digits. -/
def hexChar? (width : Nat) (r : List Char) : Option (Char × List Char) :=
  let ds := r.take width
  if ds.length = width && ds.all Hex.isDigit then
    (charOf? (Hex.number ds)).map fun c => (c, r.drop width)
  else none

theorem hexChar?_length {width : Nat} {cs r : List Char} {c : Char}
    (h : hexChar? width cs = some (c, r)) : r.length ≤ cs.length := by
  simp only [hexChar?] at h
  split at h
  · obtain ⟨_, _, h⟩ := Option.map_eq_some_iff.1 h
    cases h
    simp
  · cases h

/-- The character that an escape stands for, from the text behind the backslash. -/
def escape? : List Char → Option (Char × List Char)
  | 'b' :: r => some ('\x08', r)
  | 't' :: r => some ('\t', r)
  | 'n' :: r => some ('\n', r)
  | 'f' :: r => some ('\x0c', r)
  | 'r' :: r => some ('\r', r)
  | 'e' :: r => some ('\x1b', r)
  | '"' :: r => some ('"', r)
  | '\\' :: r => some ('\\', r)
  | 'x' :: r => hexChar? 2 r
  | 'u' :: r => hexChar? 4 r
  | 'U' :: r => hexChar? 8 r
  | _ => none

theorem escape?_length {cs : List Char} {c : Char} {r : List Char}
    (h : escape? cs = some (c, r)) : r.length ≤ cs.length := by
  unfold escape? at h
  split at h
  case h_9 | h_10 | h_11 => exact Nat.le_succ_of_le (hexChar?_length h)
  all_goals simp_all

/-- A basic string behind its opening quote. -/
def basic? (cs : List Char) : Option (List Char × List Char) :=
  match cs with
  | [] => none
  | '"' :: r => some ([], r)
  | '\\' :: r =>
    match h : escape? r with
    | none => none
    | some (c, rest) =>
      have := escape?_length h
      (basic? rest).map fun (s, rest) => (c :: s, rest)
  | c :: r => if isLineChar c then (basic? r).map fun (s, rest) => (c :: s, rest) else none
termination_by cs.length

/-- A literal string behind its opening quote. -/
def literal? : List Char → Option (List Char × List Char)
  | [] => none
  | '\'' :: r => some ([], r)
  | c :: r => if isLineChar c then (literal? r).map fun (s, rest) => (c :: s, rest) else none

/-- The text without the blanks and line breaks in front. -/
def skipBreaks : List Char → List Char
  | '\r' :: '\n' :: r => skipBreaks r
  | c :: r => if isBlank c || c == '\n' then skipBreaks r else c :: r
  | [] => []

theorem skipBreaks_length (cs : List Char) : (skipBreaks cs).length ≤ cs.length := by
  fun_induction skipBreaks cs <;> simp_all <;> omega

/-- The end of a string over several lines, from its first closing quote on: up to two quotes belong to
the text. -/
def closing? (quote : Char) (cs : List Char) : Option (List Char × List Char) :=
  let n := (cs.takeWhile (· == quote)).length
  if n < 3 then none
  else
    let extra := min (n - 3) 2
    some (List.replicate extra quote, cs.drop (3 + extra))

/-- The text behind a backslash that ends a line, with the blanks and empty lines that follow. -/
def afterFold? (cs : List Char) : Option (List Char) :=
  (afterBreak? (cs.dropWhile isBlank)).map skipBreaks

theorem afterFold?_length {cs r : List Char} (h : afterFold? cs = some r) :
    r.length ≤ cs.length := by
  unfold afterFold? at h
  obtain ⟨s, hs, rfl⟩ := Option.map_eq_some_iff.1 h
  have h1 := skipBreaks_length s
  have h2 : (cs.dropWhile isBlank).length ≤ cs.length := (List.dropWhile_suffix _).length_le
  have h3 : s.length ≤ (cs.dropWhile isBlank).length := by
    unfold afterBreak? at hs
    split at hs <;> simp_all
    omega
  omega

/-- A basic string over several lines, behind its opening quotes and their line break. -/
def longBasic? (cs : List Char) : Option (List Char × List Char) :=
  match cs with
  | [] => none
  | '\\' :: r =>
    match hf : afterFold? r with
    | some rest =>
      have := afterFold?_length hf
      longBasic? rest
    | none =>
      match h : escape? r with
      | none => none
      | some (c, rest) =>
        have := escape?_length h
        (longBasic? rest).map fun (s, rest) => (c :: s, rest)
  | '\r' :: '\n' :: r => (longBasic? r).map fun (s, rest) => ('\r' :: '\n' :: s, rest)
  | c :: r =>
    match if c = '"' then closing? '"' (c :: r) else none with
    | some done => some done
    | none =>
      if isLineChar c || c == '\n' then (longBasic? r).map fun (s, rest) => (c :: s, rest) else none
termination_by cs.length

/-- A literal string over several lines, behind its opening quotes and their line break. -/
def longLiteral? : List Char → Option (List Char × List Char)
  | [] => none
  | '\r' :: '\n' :: r => (longLiteral? r).map fun (s, rest) => ('\r' :: '\n' :: s, rest)
  | c :: r =>
    match if c = '\'' then closing? '\'' (c :: r) else none with
    | some done => some done
    | none =>
      if isLineChar c || c == '\n' then (longLiteral? r).map fun (s, rest) => (c :: s, rest) else none

/-- The text without one line break in front. -/
def dropBreak (cs : List Char) : List Char := (afterBreak? cs).getD cs

/-- A string of any form. -/
def read? : List Char → Option (String × List Char)
  | '"' :: '"' :: '"' :: r => finish (longBasic? (dropBreak r))
  | '\'' :: '\'' :: '\'' :: r => finish (longLiteral? (dropBreak r))
  | '"' :: r => finish (basic? r)
  | '\'' :: r => finish (literal? r)
  | _ => none
where
  finish (r : Option (List Char × List Char)) : Option (String × List Char) :=
    r.map fun (s, rest) => (String.ofList s, rest)

end Quoted
end ProxyWatch.Toml
