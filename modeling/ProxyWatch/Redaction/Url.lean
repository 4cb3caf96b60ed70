import ProxyWatch.Endpoint
import ProxyWatch.Redaction
import ProxyWatch.Text.Inspect
import ProxyWatch.Text.Quoted
import ProxyWatch.Url.Parser

/-!
Redaction of urls: credentials are masked, and query and fragment are left out. A text that is no url is
redacted as free text.
-/
namespace ProxyWatch

/-- The text without the spaces at its end. -/
def Url.withoutTrailingSpaces (cs : List Char) : List Char :=
  (cs.reverse.dropWhile (· == ' ')).reverse

/-- The url without its query and fragment. -/
def Url.withoutTail (u : Url) : Url :=
  { u with
    query := none
    fragment := none
    path := match u.path with
      | .bare cs => .bare (withoutTrailingSpaces cs)
      | path => path }

/-- The authority with a mask for its credentials. -/
def Authority.masked (a : Authority) : Authority :=
  if a.hasCredentials then { a with username := "***".toList, password := [] } else a

namespace Redaction

/-- A url fit to be shown. -/
def url (cs : List Char) : List Char :=
  match Url.parse cs with
  | .ok u => { u.withoutTail with authority := u.authority.map Authority.masked }.chars
  | .error _ => text cs

end Redaction

namespace Endpoint

/-- The url of the endpoint, fit to be shown. -/
def shownUrl (e : Endpoint) : String := String.ofList (Redaction.url e.url.toList)

/-- The endpoint as it is shown in diagnostics, under the given type name. -/
def inspect (typeName : String) (e : Endpoint) : Inspect :=
  .record typeName
    [("id", .atom (Quoted.quoted e.id)),
      ("name", .option (fun n => .atom (Quoted.quoted n)) e.name),
      ("url", .atom (Quoted.quoted e.shownUrl)),
      ("priority", .atom (Decimal.text e.priority)),
      ("enabled", .atom (if e.enabled then "true" else "false")),
      ("health_status", .atom e.status.name),
      ("consecutive_failures", .atom (Decimal.text e.failures)),
      ("last_checked_at", .option (fun t => .atom t.text) e.lastChecked),
      ("average_response_time_ms", .option (fun n => .atom (Decimal.text n)) e.averageMs)]

end Endpoint
end ProxyWatch
