import ProxyWatch.Url.Parser

/-!
Which urls may name a proxy: those with a proxy scheme and a host.
-/
namespace ProxyWatch

/-- Why a text is no proxy url. -/
inductive ProxyUrlError
  | malformed (error : UrlError)
  | unsupportedScheme (scheme : List Char)
  | missingHost
  deriving DecidableEq, Repr, Inhabited

def ProxyUrlError.message : ProxyUrlError → String
  | malformed e => e.message
  | unsupportedScheme s => "unsupported scheme '" ++ String.ofList s ++ "'"
  | missingHost => "missing host"

namespace ProxyUrl

/-- The schemes of proxies. -/
def schemes : List String := ["http", "https", "socks4", "socks5", "socks5h"]

/-- The url that a text writes, if it may name a proxy. -/
def parse (text : List Char) : Except ProxyUrlError Url := do
  match Url.parse text with
  | .error e => throw (.malformed e)
  | .ok u =>
    if !schemes.contains (String.ofList u.scheme) then throw (.unsupportedScheme u.scheme)
    else if u.host.isNone then throw .missingHost
    else return u

/-- The text names a proxy. -/
def validate (text : String) : Except ProxyUrlError Unit := (parse text.toList).map fun _ => ()

end ProxyUrl
end ProxyWatch
