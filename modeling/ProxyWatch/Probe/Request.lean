import ProxyWatch.Probe
import ProxyWatch.RequestUri

/-!
The request of a probe: it can be built only if the proxy and the probed resource are request uris.
-/
namespace ProxyWatch

/-- A request to be sent through a proxy. -/
structure ProbeRequest where
  proxy : RequestUri
  target : RequestUri
  deriving DecidableEq, Repr, Inhabited

/-- Builds a request; the proxy is read first. -/
def ProbeRequest.build (proxy target : String) : Except ProbeError ProbeRequest := do
  let proxy ← (RequestUri.parse proxy.toList).mapError fun _ =>
    .invalidRequest "unparseable proxy url"
  let target ← (RequestUri.parse target.toList).mapError fun e => .invalidRequest e.message
  return { proxy, target }

end ProxyWatch
