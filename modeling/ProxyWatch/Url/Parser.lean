import ProxyWatch.Url

/-!
Reading urls: a text is cut at its delimiters into scheme, authority, path, query and fragment, and each
part is read by its own rules. Web urls need a host and may write backslashes for slashes.
-/
namespace ProxyWatch.Url

/-- The text without control characters and spaces at its ends, and without tabs and line breaks. -/
def tidy (cs : List Char) : List Char :=
  let isEdge (c : Char) : Bool := c.toNat ≤ 0x20
  let inner := ((cs.dropWhile isEdge).reverse.dropWhile isEdge).reverse
  inner.filter fun c => !(c == '\t' || c == '\n' || c == '\r')

def isSchemeChar (c : Char) : Bool := c.isAlphanum || c == '+' || c == '-' || c == '.'

/-- The scheme in lower case and the text behind its colon. -/
def splitScheme? (cs : List Char) : Option (List Char × List Char) :=
  match cs.takeWhile isSchemeChar, cs.dropWhile isSchemeChar with
  | c :: s, ':' :: rest => if c.isAlpha then some ((c :: s).map Char.toLower, rest) else none
  | _, _ => none

/-- A slash, or what counts as one. -/
def isSlash (special : Bool) (c : Char) : Bool := c == '/' || (special && c == '\\')

/-- A character that ends an authority. -/
def endsAuthority (special : Bool) (c : Char) : Bool :=
  isSlash special c || c == '?' || c == '#'

/-- A character that ends a path. -/
def endsPath (c : Char) : Bool := c == '?' || c == '#'

/-- Splits at the last at sign. -/
def splitAtSign? (cs : List Char) : Option (List Char × List Char) :=
  match cs.reverse.dropWhile (· != '@') with
  | _ :: before => some (before.reverse, (cs.reverse.takeWhile (· != '@')).reverse)
  | [] => none

/-- Splits behind the host: at the first colon outside brackets. -/
def splitHost (inBrackets : Bool) : List Char → List Char × List Char
  | [] => ([], [])
  | c :: cs =>
    if c == ':' && !inBrackets then ([], c :: cs)
    else
      let (host, rest) := splitHost (if c == '[' then true else if c == ']' then false else inBrackets) cs
      (c :: host, rest)

/-- Reads the digits of a port, up to the end of the authority. A backslash ends it in any url. -/
def port? (kind : SchemeKind) (cs : List Char) : Except UrlError (Option Nat × List Char) :=
  let (ds, rest) := Decimal.run cs
  let n := Decimal.value ds
  let ended := match rest with
    | [] => true
    | c :: _ => c == '\\'
  if n > 65535 || !ended then .error .invalidPort
  else .ok (if ds.isEmpty || some n = kind.defaultPort then none else some n, rest)

/-- Host and port; what is left of the text belongs to the path. -/
def hostAndPort (kind : SchemeKind) (cs : List Char) :
    Except UrlError (Option Host × Option Nat × List Char) := do
  let (text, rest) := splitHost false cs
  if text.isEmpty then
    if kind.isSpecial || !rest.isEmpty then throw .emptyHost else return (none, none, [])
  else
    let host ← if kind.isSpecial then Host.ofWebText text else Host.ofText text
    match rest with
    | _ :: digits =>
      let (port, rest) ← port? kind digits
      return (some host, port, rest)
    | [] => return (some host, none, [])

/-- The user name and the password in a text, escaped. -/
def credentials (cs : List Char) : List Char × List Char :=
  (Percent.encode Percent.userinfo (cs.takeWhile (· != ':')),
    Percent.encode Percent.userinfo ((cs.dropWhile (· != ':')).drop 1))

/-- An authority. What is left of the text belongs to the path. -/
def authorityOf (kind : SchemeKind) (cs : List Char) (more : Bool) :
    Except UrlError (Authority × List Char) := do
  match splitAtSign? cs with
  | none =>
    let (host, port, rest) ← hostAndPort kind cs
    return ({ host, port }, rest)
  | some (info, cs) =>
    if info.isEmpty && cs.isEmpty && more then throw .emptyHost
    let (username, password) := credentials info
    let (host, port, rest) ← hostAndPort kind cs
    let a : Authority := { username, password, host, port }
    if host.isNone && a.hasCredentials then throw .emptyHost
    return (a, rest)

/-- Cuts a path into segments. -/
def splitPath (special : Bool) (cs : List Char) : List (List Char) :=
  cs.splitOnP (isSlash special)

/-- The text without a slash in front. -/
def dropSlash (special : Bool) : List Char → List Char
  | c :: cs => if isSlash special c then cs else c :: cs
  | [] => []

/-- The segments of the path behind an authority; a web url has at least one. -/
def pathSegments (kind : SchemeKind) (cs : List Char) : List Segment :=
  if cs.isEmpty && !kind.isSpecial then []
  else
    (UrlPath.resolve false [] false (splitPath kind.isSpecial (dropSlash kind.isSpecial cs))).1

/-- Query and fragment. -/
def queryAndFragment (kind : SchemeKind) (cs : List Char) : Option (List Char) × Option (List Char) :=
  let queryText := cs.takeWhile (· != '#')
  let querySet := match kind with
    | .other => Percent.query
    | _ => Percent.specialQuery
  (match queryText with | _ :: q => some (Percent.encode querySet q) | [] => none,
    match cs.dropWhile (· != '#') with | _ :: f => some (Percent.encode Percent.fragment f) | [] => none)

/-- The url with the query and fragment in a text. -/
def withTail (u : Url) (kind : SchemeKind) (tail : List Char) : Url :=
  let (query, fragment) := queryAndFragment kind tail
  { u with query, fragment }

/-- Splits behind the path. -/
def splitTail (cs : List Char) : List Char × List Char := cs.span (!endsPath ·)

/-- A url with an authority, from the text behind the slashes. -/
def ofAuthority (scheme : List Char) (kind : SchemeKind) (cs : List Char) : Except UrlError Url := do
  let (front, behind) := cs.span (!endsAuthority kind.isSpecial ·)
  let (a, rest) ← authorityOf kind front (!behind.isEmpty)
  let (pathText, tail) := splitTail (rest ++ behind)
  let u : Url := { scheme, authority := some a, path := .segments (pathSegments kind pathText) }
  return u.withTail kind tail

/-- A file url, from the text of its path. A drive drops the host. -/
def ofFilePath (host : Option Host) (cs : List Char) : Url :=
  let (pathText, tail) := splitTail cs
  let (segments, drive) := UrlPath.resolve true [] false (splitPath true pathText)
  let u : Url :=
    { scheme := "file".toList
      authority := some { host := if drive then none else host }
      path := .segments (UrlPath.withoutEmptyFront segments) }
  u.withTail .file tail

/-- A file url, from the text behind two slashes. The local host is no host. -/
def ofFileHost (cs : List Char) : Except UrlError Url := do
  let (text, rest) := cs.span (!endsAuthority true ·)
  if Segment.isDrive text then return ofFilePath none cs
  else if text.isEmpty then return ofFilePath none rest
  else
    let host ← Host.ofWebText text
    if host = .name "localhost".toList then return ofFilePath none rest
    else return ofFilePath (some host) (dropSlash true rest)

/-- A file url, from the text behind the colon. -/
def ofFile (cs : List Char) : Except UrlError Url :=
  match cs with
  | a :: b :: rest =>
    if isSlash true a && isSlash true b then ofFileHost rest
    else .ok (ofFilePath none (dropSlash true cs))
  | _ => .ok (ofFilePath none (dropSlash true cs))

/-- A url with neither authority nor web scheme, from the text behind the colon. -/
def ofPath (scheme : List Char) (cs : List Char) : Url :=
  let (pathText, tail) := splitTail cs
  let path : UrlPath := match pathText with
    | '/' :: rest => .segments (UrlPath.resolve false [] false (splitPath false rest)).1
    | text => .bare (Percent.encode Percent.controls text)
  { scheme, path : Url }.withTail .other tail

/-- The url that a text writes. -/
def parse (cs : List Char) : Except UrlError Url :=
  match splitScheme? (tidy cs) with
  | none => .error .noScheme
  | some (scheme, rest) =>
    match SchemeKind.of scheme, rest with
    | .file, rest => ofFile rest
    | .web port, rest => ofAuthority scheme (.web port) (rest.dropWhile (isSlash true))
    | .other, '/' :: '/' :: rest => ofAuthority scheme .other rest
    | .other, rest => .ok (ofPath scheme rest)

end ProxyWatch.Url
