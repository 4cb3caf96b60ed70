import ProxyWatch.Probe.Request
import ProxyWatch.Proofs.RequestUri
import ProxyWatch.Proofs.Url.Credentials

/-! Building the request of a probe. Proxies and probed resources are checked as urls and sent as request uris: what is
taken by the one grammar need not be read by the other. -/
namespace ProxyWatch

namespace Url

variable {cs : List Char} {u : Url}

/-- What is read as a url has a scheme and a colon, so it is no path and no single character. -/
theorem front_of_parse (h : parse cs = .ok u) : 2 ≤ cs.length ∧ cs.head? ≠ some '/' := by
  obtain ⟨c, scheme, rest, htidy, hname⟩ := exists_scheme_of_parse h
  constructor
  · have hlen := congrArg List.length htidy
    have hle := (tidy_sublist cs).length_le
    simp only [List.length_append, List.length_cons] at hlen
    omega
  · intro hslash
    obtain ⟨behind, rfl⟩ := List.head?_eq_some_iff.mp hslash
    have hkept : tidy (['/'] ++ behind) = ['/'] ++ tidied behind :=
      tidy_append (List.cons_ne_nil '/' []) (by decide) behind
    rw [← List.singleton_append, hkept] at htidy
    obtain rfl : '/' = c := (List.cons.inj htidy).1
    exact absurd (hname '/' (by simp)) (by decide)

end Url

namespace ProbeRequest

open RequestUri (IsFull)

/-- A request is built of two request uris, and a fault lies in one of them. -/
theorem build_iff (proxy target : String) :
    ((∃ r, build proxy target = .ok r) ↔
      (∃ u, RequestUri.parse proxy.toList = .ok u) ∧ ∃ u, RequestUri.parse target.toList = .ok u) ∧
    ∀ e, build proxy target = .error e → ∃ detail, e = .invalidRequest detail := by
  unfold build
  cases RequestUri.parse proxy.toList <;> cases RequestUri.parse target.toList <;>
    simp [Except.mapError, bind, Except.bind, pure, Except.pure]

/-- The request for a proxy that was taken can be built exactly if its url and the probed one are request uris as they
are written. Otherwise every probe of the proxy ends with an invalid request, which counts as a failure. -/
theorem build_ok_iff {config : Config} {id raw : String} (hc : config.validate = .ok ())
    (hurl : checkProxyUrl id raw = .ok ()) :
    ((∃ r, build raw config.health.probeUrl = .ok r) ↔
      IsFull raw.toList ∧ IsFull config.health.probeUrl.toList) ∧
    ∀ e, build raw config.health.probeUrl = .error e →
      (∃ detail, e = .invalidRequest detail) ∧ ∀ now, (ProbeOutcome.ofResult now (.error e)).level = .failed := by
  obtain ⟨_, hproxy⟩ := parse_of_checkProxyUrl hurl
  obtain ⟨_, htarget⟩ := (Config.checked_of_validate hc).health.probeUrl_parses
  have hproxy := Url.front_of_parse hproxy
  have htarget := Url.front_of_parse htarget
  obtain ⟨hbuild, herror⟩ := build_iff raw config.health.probeUrl
  rw [RequestUri.parse_iff hproxy.1 hproxy.2, RequestUri.parse_iff htarget.1 htarget.2] at hbuild
  exact ⟨hbuild, fun e h => ⟨herror e h, fun _ => rfl⟩⟩

/-- A proxy and a probed resource on the own machine. -/
theorem build_ok_iff_loopback :
    let config : Config := { health := { probeUrl := "http://[::1]/" } }
    config.validate = .ok () ∧ checkProxyUrl "a" "socks5://bob:pw@[::1]:81" = .ok () ∧
    IsFull "socks5://bob:pw@[::1]:81".toList ∧ IsFull config.health.probeUrl.toList := by
  intro config
  have hc : config.validate = .ok () := by decide +kernel
  have hurl : checkProxyUrl "a" "socks5://bob:pw@[::1]:81" = .ok () := by decide +kernel
  let request : ProbeRequest :=
    { proxy := { scheme := some "socks5".toList, authority := "bob:pw@[::1]:81".toList }
      target := { scheme := some "http".toList, authority := "[::1]".toList, path := ['/'] } }
  have hbuild : build "socks5://bob:pw@[::1]:81" config.health.probeUrl = .ok request := by decide +kernel
  exact ⟨hc, hurl, (build_ok_iff hc hurl).1.mp ⟨request, hbuild⟩⟩

/-- A blank in the path of a proxy's url is taken, and no request can be built with it. -/
theorem blank_not_built :
    let config : Config := { health := { probeUrl := "http://[::1]/" } }
    config.validate = .ok () ∧ checkProxyUrl "a" "http://[::1]:81/a b" = .ok () ∧
    build "http://[::1]:81/a b" config.health.probeUrl = .error (.invalidRequest "unparseable proxy url") := by
  decide +kernel

end ProbeRequest
end ProxyWatch
