import ProxyWatch.Text.Blank
import ProxyWatch.Text.Decimal
import ProxyWatch.Text.Pattern

/-!
Redaction of free text: userinfo in urls, values after secret-bearing keywords, and long opaque strings.
-/
namespace ProxyWatch.Redaction

open Blank

/-- What stands in place of a secret. -/
def mask : List Char := "[REDACTED]".toList

/-- `c` is the lower-case ASCII letter `l` in some case. The Kelvin sign and the long s are cases of k and s. -/
def isCaseOf (l c : Char) : Bool :=
  c.toLower == l || (l == 'k' && c == '\u212A') || (l == 's' && c == '\u017F')

/-- A letter that may start a url scheme, in any case. -/
def isSchemeStart (c : Char) : Bool := c.isAlpha || c == '\u212A' || c == '\u017F'

/-- A character of a url scheme after its first one. -/
def isSchemeRest (c : Char) : Bool :=
  isSchemeStart c || c.isDigit || c == '+' || c == '.' || c == '-'

/-- A character of the userinfo that is masked. -/
def isUserinfo (c : Char) : Bool := !(c == '/' || isBlank c || c == '@')

/-- A url scheme and `://`, then userinfo and an at sign: the userinfo is masked. -/
def userinfo : Pattern := fun cs =>
  match cs with
  | [] => none
  | c :: r =>
    if isSchemeStart c then
      match r.dropWhile isSchemeRest with
      | ':' :: '/' :: '/' :: body =>
        match body.takeWhile isUserinfo, body.dropWhile isUserinfo with
        | _ :: _, '@' :: rest =>
          some (c :: r.takeWhile isSchemeRest ++ "://***@".toList, rest)
        | _, _ => none
      | _ => none
    else none

/-- The text behind a keyword in any case, if it starts with that keyword. -/
def afterKeyword : List Char → List Char → Option (List Char)
  | [], cs => some cs
  | _ :: _, [] => none
  | l :: ls, c :: cs => if isCaseOf l c then afterKeyword ls cs else none

/-- The text behind a value, which is a run of at least one value character. -/
def afterValue (isValue : Char → Bool) : List Char → Option (List Char)
  | [] => none
  | c :: cs => if isValue c then some (cs.dropWhile isValue) else none

/-- The text behind separators and a value. As many separators as possible are taken, but at least one. -/
def afterSeparated (isSeparator isValue : Char → Bool) : List Char → Option (List Char)
  | [] => none
  | c :: cs =>
    if isSeparator c then
      match afterSeparated isSeparator isValue cs with
      | some r => some r
      | none => afterValue isValue cs
    else none

/-- A keyword that announces a secret. -/
structure Keyword where
  /-- The text behind the keyword. -/
  after : List Char → Option (List Char)
  isSeparator : Char → Bool
  isValue : Char → Bool

/-- The keyword, its separators and its value, masked together. -/
def Keyword.pattern (k : Keyword) : Pattern := fun cs => do
  let r ← k.after cs
  let rest ← afterSeparated k.isSeparator k.isValue r
  return (mask, rest)

def colonEqualsBlank (c : Char) : Bool := c == ':' || c == '=' || isBlank c

def colonBlank (c : Char) : Bool := c == ':' || isBlank c

def notBlank (c : Char) : Bool := !isBlank c

def notBlankAmpersand (c : Char) : Bool := !(isBlank c || c == '&')

/-- `api` and `key`, with at most one underscore or hyphen between them. -/
def afterApiKey (cs : List Char) : Option (List Char) := do
  let r ← afterKeyword "api".toList cs
  match r with
  | c :: r' => if c == '_' || c == '-' then afterKeyword "key".toList r' else afterKeyword "key".toList r
  | [] => none

/-- The keywords, in the order in which they are masked. -/
def keywords : List Keyword :=
  [⟨afterKeyword "authorization".toList, colonEqualsBlank, notBlank⟩,
   ⟨afterKeyword "bearer".toList, colonBlank, notBlank⟩,
   ⟨afterKeyword "token".toList, colonEqualsBlank, notBlankAmpersand⟩,
   ⟨afterKeyword "password".toList, colonEqualsBlank, notBlankAmpersand⟩,
   ⟨afterApiKey, colonEqualsBlank, notBlankAmpersand⟩,
   ⟨afterKeyword "secret".toList, colonEqualsBlank, notBlankAmpersand⟩]

/-- A character of an opaque token. -/
def isOpaque (c : Char) : Bool := c.isAlphanum || c == '-' || c == '_'

/-- Replaces a text of more than a hundred token characters, nothing else in it, by a note of its length. -/
def maskOpaque (cs : List Char) : List Char :=
  if cs.length > 100 && cs.all isOpaque then
    "[REDACTED_LONG_STRING_".toList ++ Decimal.digits cs.length ++ "chars]".toList
  else cs

/-- Masks the secrets in a text. -/
def text (cs : List Char) : List Char :=
  maskOpaque (keywords.foldl (fun acc k => k.pattern.replaceAll acc) (userinfo.replaceAll cs))

end ProxyWatch.Redaction
