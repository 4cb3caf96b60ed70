import ProxyWatch.Url.Host
import ProxyWatch.Url.Path

/-!
Urls taken apart, and their text.
-/
namespace ProxyWatch

/-- What a scheme says about the rest of a url. -/
inductive SchemeKind
  /-- A web scheme with its default port. -/
  | web (port : Nat)
  | file
  | other
  deriving DecidableEq, Repr, Inhabited

/-- The kind of a scheme in lower case. -/
def SchemeKind.of (scheme : List Char) : SchemeKind :=
  match ([("http", web 80), ("https", web 443), ("ws", web 80), ("wss", web 443), ("ftp", web 21),
      ("file", file)] : List (String × SchemeKind)).find? (·.1.toList == scheme) with
  | some (_, kind) => kind
  | none => other

/-- Web and file urls read a backslash as a slash. -/
def SchemeKind.isSpecial : SchemeKind → Bool
  | other => false
  | _ => true

def SchemeKind.defaultPort : SchemeKind → Option Nat
  | web port => some port
  | _ => none

/-- What follows two slashes: credentials, host and port. No host stands for an empty one. -/
structure Authority where
  /-- The escaped user name. -/
  username : List Char := []
  /-- The escaped password; none is the same as an empty one. -/
  password : List Char := []
  host : Option Host := none
  /-- The port, unless it is the scheme's default. -/
  port : Option Nat := none
  deriving DecidableEq, Repr, Inhabited

/-- A path: segments, or a text with no structure. -/
inductive UrlPath
  | segments (list : List Segment)
  | bare (chars : List Char)
  deriving DecidableEq, Repr, Inhabited

/-- A url. -/
structure Url where
  scheme : List Char
  authority : Option Authority := none
  path : UrlPath
  query : Option (List Char) := none
  fragment : Option (List Char) := none
  deriving DecidableEq, Repr, Inhabited

namespace Authority

def hasCredentials (a : Authority) : Bool := !a.username.isEmpty || !a.password.isEmpty

/-- User name and password in front of the host. -/
def credentials (a : Authority) : List Char :=
  if a.hasCredentials then
    a.username ++ (if a.password.isEmpty then [] else ':' :: a.password) ++ ['@']
  else []

def chars (a : Authority) : List Char :=
  a.credentials ++ (match a.host with | some h => h.chars | none => []) ++
    (match a.port with | some p => ':' :: Decimal.digits p | none => [])

end Authority

namespace Url

/-- The text of the path. Without an authority a path must not start with two slashes. -/
def pathChars (u : Url) : List Char :=
  match u.path, u.authority with
  | .bare cs, _ => cs
  | .segments ss, some _ => UrlPath.chars ss
  | .segments ([] :: s :: ss), none => '/' :: '.' :: UrlPath.chars ([] :: s :: ss)
  | .segments ss, none => UrlPath.chars ss

/-- The text of a url. -/
def chars (u : Url) : List Char :=
  u.scheme ++ ':' :: (match u.authority with | some a => '/' :: '/' :: a.chars | none => []) ++
    u.pathChars ++ (match u.query with | some q => '?' :: q | none => []) ++
    (match u.fragment with | some f => '#' :: f | none => [])

def host (u : Url) : Option Host := u.authority.bind (·.host)

end Url
end ProxyWatch
