import ProxyWatch.Url.Parser

/-!
The uris that an HTTP request can carry: a scheme with an authority and a path, or one of these alone. The
grammar of RFC 3986 holds, with some characters in paths and queries that should have been escaped.
-/
namespace ProxyWatch

/-- Why a text is no request uri. -/
inductive RequestUriError
  | empty
  | tooLong
  | schemeTooLong
  | invalidCharacter
  | invalidAuthority
  | invalidFormat
  deriving DecidableEq, Repr, Inhabited

def RequestUriError.message : RequestUriError → String
  | empty => "empty string"
  | tooLong => "uri too long"
  | schemeTooLong => "scheme too long"
  | invalidCharacter => "invalid uri character"
  | invalidAuthority => "invalid authority"
  | invalidFormat => "invalid format"

/-- A request uri; its fragment is left out. -/
structure RequestUri where
  scheme : Option (List Char) := none
  authority : List Char := []
  /-- The path and the query. -/
  path : List Char := []
  deriving DecidableEq, Repr, Inhabited

namespace RequestUri

/-- The longest text read, in bytes. -/
def maxBytes : Nat := 65534

def maxScheme : Nat := 64

/-- A colon more than an address in brackets and a port can have. -/
def maxColons : Nat := 8

/-- Characters of an authority other than the percent sign. -/
def isPlain (c : Char) : Bool := c.isAlphanum || "!$&'()*+,-./:;=?@[]_~".toList.contains c

/-- Ends an authority. -/
def isAuthorityEnd (c : Char) : Bool := c == '/' || c == '?' || c == '#'

/-- What counts of an authority read so far. -/
structure AuthorityScan where
  /-- Colons that belong neither to user information nor to an address in brackets. -/
  colons : Nat := 0
  opened : Bool := false
  closed : Bool := false
  /-- A percent sign that belongs neither to user information nor to an address in brackets. -/
  percent : Bool := false
  /-- The last character is an at sign. -/
  atEnd : Bool := false
  deriving DecidableEq, Repr, Inhabited

namespace AuthorityScan

/-- Takes one more character. -/
def next (s : AuthorityScan) (c : Char) : Except RequestUriError AuthorityScan :=
  let s' := { s with atEnd := false }
  match c with
  | ':' =>
    if s.colons < maxColons then .ok { s' with colons := s.colons + 1 } else .error .invalidAuthority
  | '[' => if s.percent || s.opened then .error .invalidAuthority else .ok { s' with opened := true }
  | ']' =>
    if !s.opened || s.closed then .error .invalidAuthority
    else .ok { s' with closed := true, colons := 0, percent := false }
  | '@' => .ok { s with colons := 0, percent := false, atEnd := true }
  | '%' => .ok { s' with percent := true }
  | c => if isPlain c then .ok s' else .error .invalidCharacter

/-- What was read can be an authority. -/
def isSound (s : AuthorityScan) : Bool :=
  s.opened == s.closed && s.colons ≤ 1 && !s.atEnd && !s.percent

end AuthorityScan

/-- Reads an authority; the characters of it and the rest. -/
def readAuthority (s : AuthorityScan) : List Char → Except RequestUriError (List Char × List Char)
  | [] => if s.isSound then .ok ([], []) else .error .invalidAuthority
  | c :: cs =>
    if isAuthorityEnd c then
      if s.isSound then .ok ([], c :: cs) else .error .invalidAuthority
    else do
      let (read, rest) ← readAuthority (← s.next c) cs
      return (c :: read, rest)

/-- Characters that may stand in a path. -/
def isPathChar (c : Char) : Bool :=
  let n := c.toNat
  n == 0x21 || n == 0x22 || (0x24 ≤ n && n ≤ 0x3B) || n == 0x3D || (0x40 ≤ n && n ≤ 0x5F) ||
    (0x61 ≤ n && n ≤ 0x7E)

/-- Characters that may stand in a query. -/
def isQueryChar (c : Char) : Bool :=
  let n := c.toNat
  n == 0x21 || (0x24 ≤ n && n ≤ 0x3B) || n == 0x3D || (0x3F ≤ n && n ≤ 0x7E)

/-- Reads a query up to the fragment. -/
def readQuery : List Char → Except RequestUriError (List Char)
  | [] => .ok []
  | c :: cs =>
    if c = '#' then .ok []
    else if isQueryChar c then (readQuery cs).map (c :: ·)
    else .error .invalidCharacter

/-- Reads a path with its query up to the fragment. -/
def readPath : List Char → Except RequestUriError (List Char)
  | [] => .ok []
  | c :: cs =>
    if c = '#' then .ok []
    else if c = '?' then (readQuery cs).map (c :: ·)
    else if isPathChar c then (readPath cs).map (c :: ·)
    else .error .invalidCharacter

/-- The scheme before `://`, if there is one, and the rest. -/
def readScheme (cs : List Char) : Except RequestUriError (Option (List Char) × List Char) :=
  match cs.span Url.isSchemeChar with
  | (name, ':' :: '/' :: '/' :: rest) =>
    if name.isEmpty && rest.isEmpty then .ok (none, cs)
    else if name.length > maxScheme then .error .schemeTooLong
    else .ok (some name, rest)
  | _ => .ok (none, cs)

/-- Reads a text that is more than one character and does not begin with a slash. -/
def readFull (cs : List Char) : Except RequestUriError RequestUri := do
  let (scheme, cs) ← readScheme cs
  let (authority, rest) ← readAuthority {} cs
  match scheme with
  | none => if rest.isEmpty then return { authority } else throw .invalidFormat
  | some _ =>
    if authority.isEmpty then throw .invalidFormat
    return { scheme, authority, path := ← readPath rest }

/-- A single character that can only be an authority. -/
def readSingle (c : Char) : Except RequestUriError RequestUri := do
  let (authority, rest) ← readAuthority {} [c]
  if rest.isEmpty then return { authority } else throw .invalidCharacter

/-- Reads a request uri. -/
def parse (cs : List Char) : Except RequestUriError RequestUri :=
  if (String.ofList cs).utf8ByteSize > maxBytes then .error .tooLong
  else match cs with
    | [] => .error .empty
    | ['*'] => .ok { path := ['*'] }
    | '/' :: _ => (readPath cs).map ({ path := · })
    | [c] => readSingle c
    | _ => readFull cs

end RequestUri
end ProxyWatch
