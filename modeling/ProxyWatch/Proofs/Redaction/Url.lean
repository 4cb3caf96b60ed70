import ProxyWatch.Proofs.Url.Credentials
import ProxyWatch.Redaction.Url

/-! Urls of proxies with userinfo. What is shown of them and whether they are taken does not depend on the userinfo, and
what is shown of those that are taken does not depend on their query and fragment either. -/
namespace ProxyWatch.Redaction

open Url (IsInfo beforeTail tailOf beforeTail_append beforeTail_of_forall endsPath isEdge site)

variable {name : String} {u v front r : List Char} {c : Char}

theorem isScheme_of_mem (hs : name ∈ ProxyUrl.schemes) : IsScheme name.toList := by
  obtain ⟨c, r, hname, hc, hr, -⟩ := Url.schemes_lower hs
  exact ⟨c, r, hname, hc, hr⟩

/-- The url as it is shown if it has credentials. -/
def veiled (url : ProxyWatch.Url) : ProxyWatch.Url :=
  { url.withoutTail with authority := url.authority.map fun a => { a with username := "***".toList, password := [] } }

theorem masked_eq_veiled (hu : IsInfo u) (url : ProxyWatch.Url) (info : List Char) (kind : SchemeKind)
    (tail : List Char) :
    let w := (url.withInfo (u ++ info)).withTail kind tail
    { w.withoutTail with authority := w.authority.map Authority.masked } = veiled url := by
  have hname := Url.credentials_ne_nil hu info
  cases ha : url.authority <;>
    simp [veiled, Url.withoutTail, Url.withTail, Url.withInfo, ha, Authority.masked, Authority.hasCredentials, hname]

/-- The shown form is read behind the userinfo, unless the text is no url. -/
theorem url_link (hs : name ∈ ProxyUrl.schemes) (hu : IsInfo u) (r : List Char) :
    url (link name.toList u r) = match site name.toList (SchemeKind.of name.toList) (beforeTail r) with
      | .ok w => (veiled w).chars
      | .error _ => text (link name.toList u r) := by
  obtain ⟨info, h⟩ := Url.parse_link hs hu r
  rw [url, h]
  cases site name.toList (SchemeKind.of name.toList) (beforeTail r) with
  | error e => rfl
  | ok w => exact congrArg Url.chars (masked_eq_veiled hu w info _ _)

/-- The verdict is found behind the userinfo. -/
theorem checkProxyUrl_link (hs : name ∈ ProxyUrl.schemes) (hu : IsInfo u) (r : List Char) (id : String) :
    checkProxyUrl id (String.ofList (link name.toList u r)) =
      match site name.toList (SchemeKind.of name.toList) (beforeTail r) with
      | .ok _ => .ok ()
      | .error e => .error (.invalidProxyUrl id (.malformed e)) := by
  obtain ⟨info, h⟩ := Url.parse_link hs hu r
  rw [checkProxyUrl, ProxyUrl.validate, String.toList_ofList, ProxyUrl.parse, h]
  cases hsite : site name.toList (SchemeKind.of name.toList) (beforeTail r) with
  | error e => rfl
  | ok w =>
    obtain ⟨hscheme, hhost⟩ := Url.site_ok hsite
    rw [← Url.host_withInfo w (u ++ info)] at hhost
    let shown := (w.withInfo (u ++ info)).withTail (SchemeKind.of name.toList) (tailOf r)
    have hscheme : shown.scheme = name.toList := hscheme
    have hhost : shown.host.isNone = false := hhost
    simp [Except.map, Except.mapError, shown, hscheme, hhost, hs, pure, Except.pure]

/-- Neither what is shown of the url of a proxy nor the verdict on it depends on its userinfo. What is shown of a url
that is taken depends on nothing behind its first question mark or number sign, nor on whether there is one; only white
space and controls that come to stand at the end are no part of the url. -/
theorem url_hides_userinfo (hs : name ∈ ProxyUrl.schemes) (hu : IsInfo u) (hv : IsInfo v) (r : List Char) :
    url (link name.toList u r) = url (link name.toList v r) ∧
    (∀ id, checkProxyUrl id (String.ofList (link name.toList u r)) =
      checkProxyUrl id (String.ofList (link name.toList v r))) ∧
    ∀ id, checkProxyUrl id (String.ofList (link name.toList u r)) = .ok () →
      (∀ r', beforeTail r' = beforeTail r → url (link name.toList u r') = url (link name.toList u r)) ∧
      ∀ front c rest, r = front ++ c :: rest → (∀ x ∈ front, endsPath x = false) → endsPath c = true →
        (∀ c' rest', endsPath c' = true →
          url (link name.toList u (front ++ c' :: rest')) = url (link name.toList u r)) ∧
        ((∀ x ∈ front.getLast?, isEdge x = false) → url (link name.toList u front) = url (link name.toList u r)) := by
  have htext : text (link name.toList u r) = text (link name.toList v r) := by
    obtain ⟨shown, hshown⟩ := exists_shown (isScheme_of_mem hs) [] r
    rw [text_eq, text_eq]
    exact congrArg (maskOpaque <| maskValues ·) ((hshown u hu.isUserinfo).trans (hshown v hv.isUserinfo).symm)
  refine ⟨?_, fun id => by rw [checkProxyUrl_link hs hu, checkProxyUrl_link hs hv], fun id hok => ?_⟩
  · rw [url_link hs hu, url_link hs hv, htext]
  · have hsame : ∀ r', beforeTail r' = beforeTail r → url (link name.toList u r') = url (link name.toList u r) := by
      intro r' hr
      rw [checkProxyUrl_link hs hu] at hok
      rw [url_link hs hu, url_link hs hu, hr]
      cases hsite : site name.toList (SchemeKind.of name.toList) (beforeTail r) with
      | error e => simp [hsite] at hok
      | ok w => rfl
    refine ⟨hsame, fun front c rest hr hfront hc => ⟨fun c' rest' hc' => hsame _ ?_, fun hlast => hsame _ ?_⟩⟩
    · rw [hr, beforeTail_append hfront hc', beforeTail_append hfront hc]
    · rw [hr, beforeTail_append hfront hc, beforeTail_of_forall hfront hlast]

/-- Two users of a proxy whose url has a query. -/
theorem url_hides_userinfo_password :
    "socks5" ∈ ProxyUrl.schemes ∧ IsInfo "bob:pw".toList ∧ IsInfo "eve".toList ∧
    checkProxyUrl "p" (String.ofList (link "socks5".toList "bob:pw".toList "proxy:1080?key=1".toList)) = .ok () ∧
    url (link "socks5".toList "bob:pw".toList "proxy:1080?key=1".toList) =
      url (link "socks5".toList "eve".toList "proxy:1080?key=1".toList) ∧
    url (link "socks5".toList "bob:pw".toList "proxy:1080#home".toList) =
      url (link "socks5".toList "bob:pw".toList "proxy:1080?key=1".toList) := by
  have hs : "socks5" ∈ ProxyUrl.schemes := by decide
  have hu : IsInfo "bob:pw".toList := ⟨by decide, by decide, by decide, by decide, by decide⟩
  have hv : IsInfo "eve".toList := ⟨by decide, by decide, by decide, by decide, by decide⟩
  have hok : checkProxyUrl "p" (String.ofList (link "socks5".toList "bob:pw".toList "proxy:1080?key=1".toList)) =
      .ok () := by decide
  obtain ⟨hsame, -, htail⟩ := url_hides_userinfo hs hu hv "proxy:1080?key=1".toList
  have htail := ((htail "p" hok).2 "proxy:1080".toList '?' "key=1".toList rfl (by decide) (by decide)).1
  exact ⟨hs, hu, hv, hok, hsame, htail '#' "home".toList (by decide)⟩

end ProxyWatch.Redaction
