import ProxyWatch.Proofs.Config
import ProxyWatch.Proofs.Redaction.Userinfo
import ProxyWatch.Proofs.Text.Run

/-! Reading the url of a proxy with userinfo. Nothing but the credentials depends on the userinfo, and nothing but the
query and the fragment on the text from its first question mark or number sign on. -/
namespace ProxyWatch.Url

open Redaction (link)

/-- Userinfo that stays in one piece when a url is read, with a user name in it. -/
structure IsInfo (cs : List Char) : Prop where
  ne_nil : cs ≠ []
  has_name : cs.head? ≠ some ':'
  no_mark : ∀ c ∈ cs, c ∉ ['/', '\\', '?', '#', '@']
  no_blank : ∀ c ∈ cs, Blank.isBlank c = false
  no_control : ∀ c ∈ cs, ¬ (c.toNat < 0x20 ∨ 0x7f ≤ c.toNat ∧ c.toNat ≤ 0x9f)

variable {scheme info front rest text tail u r : List Char} {kind : SchemeKind} {c : Char}

theorem IsInfo.isUserinfo (h : IsInfo u) : Redaction.IsUserinfo u where
  ne_nil := h.ne_nil
  no_slash := fun hc => h.no_mark '/' hc (by decide)
  no_at := fun hc => h.no_mark '@' hc (by decide)
  no_blank := h.no_blank

theorem IsInfo.not_endsAuthority (h : IsInfo u) (special : Bool) : ∀ c ∈ u, endsAuthority special c = false := by
  intro c hc
  have hmark := h.no_mark c hc
  simp only [List.mem_cons, List.not_mem_nil, or_false, not_or] at hmark
  simp [endsAuthority, isSlash, hmark]

theorem IsInfo.exists_cons (h : IsInfo u) : ∃ c r, u = c :: r ∧ c ≠ ':' ∧ isSlash true c = false := by
  match u, h with
  | [], h => exact absurd rfl h.ne_nil
  | c :: r, h =>
    have hmark := h.no_mark c (by simp)
    simp only [List.mem_cons, List.not_mem_nil, or_false, not_or] at hmark
    exact ⟨c, r, rfl, by simpa using h.has_name, by simp [isSlash, hmark]⟩

/-! Cutting the text -/

/-- A character that is left out at the ends of a text. -/
def isEdge (c : Char) : Bool := c.toNat ≤ 0x20

/-- A character that is left out nowhere but at the ends. -/
def isKept (c : Char) : Bool := !(c == '\t' || c == '\n' || c == '\r')

/-- What is read of a text that stands behind another. -/
def tidied (cs : List Char) : List Char := (cs.reverse.dropWhile isEdge).reverse.filter isKept

theorem isKept_of_not_isEdge (h : isEdge c = false) : isKept c = true := by
  have hne : ∀ d : Char, isEdge d = true → c ≠ d := by
    rintro d hd rfl
    exact absurd hd (by simp [h])
  simp [isKept, hne '\t' rfl, hne '\n' rfl, hne '\r' rfl]

theorem tidied_append (h : ∀ c ∈ front.getLast?, isEdge c = false) (rest : List Char) :
    tidied (front ++ rest) = front.filter isKept ++ tidied rest := by
  rw [tidied, List.reverse_append, dropWhile_append_of_head _ (by simpa using h), List.reverse_append,
    List.reverse_reverse, List.filter_append, tidied]

theorem tidy_append (hne : front ≠ []) (h : ∀ c ∈ front, isEdge c = false) (rest : List Char) :
    tidy (front ++ rest) = front ++ tidied rest := by
  have hstart : (front ++ rest).dropWhile isEdge = front ++ rest := by
    obtain ⟨c, front, rfl⟩ := List.exists_cons_of_ne_nil hne
    exact List.dropWhile_cons_of_neg (by simp [h c (by simp)])
  have hkept : front.filter isKept = front := List.filter_eq_self.mpr fun c hc => isKept_of_not_isEdge (h c hc)
  have htidy : tidy (front ++ rest) = tidied ((front ++ rest).dropWhile isEdge) := rfl
  rw [htidy, hstart, tidied_append (fun c hc => h c (List.mem_of_getLast? hc)), hkept]

theorem tidy_sublist (cs : List Char) : (tidy cs).Sublist cs := by
  refine List.filter_sublist.trans ?_
  rw [← List.reverse_sublist, List.reverse_reverse]
  exact (List.dropWhile_sublist _).trans (List.dropWhile_sublist _).reverse

theorem IsInfo.not_isEdge (h : IsInfo u) : ∀ c ∈ u, isEdge c = false := by
  intro c hc
  have hcontrol := h.no_control c hc
  have hblank := h.no_blank c hc
  simp only [Blank.isBlank, Bool.or_eq_false_iff, beq_eq_false_iff_ne] at hblank
  simp only [isEdge, decide_eq_false_iff_not]
  omega

/-- The text up to its query or fragment. -/
def beforeTail (cs : List Char) : List Char := (tidied cs).takeWhile (!endsPath ·)

/-- Query and fragment with the sign in front of them. -/
def tailOf (cs : List Char) : List Char := (tidied cs).dropWhile (!endsPath ·)

/-- Where the query or the fragment of a text begins. -/
theorem beforeTail_append_tailOf (cs : List Char) : (∀ c ∈ beforeTail cs, endsPath c = false) ∧
    (∀ c ∈ (tailOf cs).head?, endsPath c = true) ∧ beforeTail cs ++ tailOf cs = tidied cs := by
  refine ⟨fun c hc => by simpa using List.mem_takeWhile_imp hc, fun c hc => ?_, List.takeWhile_append_dropWhile⟩
  have h := List.head?_dropWhile_not (!endsPath ·) (tidied cs)
  rw [← tailOf, hc] at h
  simpa using h

theorem not_endsPath_of_filter (h : ∀ c ∈ front, endsPath c = false) :
    ∀ c ∈ front.filter isKept, (!endsPath c) = true := fun c hc => by
  simp [h c (List.mem_filter.mp hc).1]

/-- What is read up to a query or fragment does not depend on it. -/
theorem beforeTail_append (h : ∀ c ∈ front, endsPath c = false) (hc : endsPath c = true) (rest : List Char) :
    beforeTail (front ++ c :: rest) = front.filter isKept := by
  have hedge : isEdge c = false := by
    rcases (by simpa [endsPath] using hc : c = '?' ∨ c = '#') with rfl | rfl <;> rfl
  have htidied : tidied (front ++ [c] ++ rest) = (front ++ [c]).filter isKept ++ tidied rest :=
    tidied_append (by simpa using hedge) rest
  have hkept : [c].filter isKept = [c] := List.filter_cons_of_pos (isKept_of_not_isEdge hedge)
  rw [List.append_assoc, List.filter_append, hkept, List.append_assoc] at htidied
  rw [beforeTail, ← List.singleton_append, htidied, List.singleton_append,
    takeWhile_append_stop (not_endsPath_of_filter h) (by simp [hc])]

theorem beforeTail_of_forall (h : ∀ c ∈ front, endsPath c = false) (hlast : ∀ c ∈ front.getLast?, isEdge c = false) :
    beforeTail front = front.filter isKept := by
  have htidied := tidied_append hlast []
  rw [List.append_nil] at htidied
  rw [beforeTail, htidied, show tidied [] = [] from rfl, List.append_nil,
    List.takeWhile_eq_self_iff.2 (not_endsPath_of_filter h)]

theorem splitScheme?_append (hc : c.isAlpha = true) (h : ∀ x ∈ scheme, isSchemeChar x = true) (rest : List Char) :
    splitScheme? (c :: scheme ++ ':' :: rest) = some ((c :: scheme).map Char.toLower, rest) := by
  have hall : ∀ x ∈ c :: scheme, isSchemeChar x = true :=
    List.forall_mem_cons.mpr ⟨by simp [isSchemeChar, Char.isAlphanum, hc], h⟩
  rw [splitScheme?, takeWhile_append_stop hall (by decide), dropWhile_append_stop hall (by decide)]
  simp [hc]

/-- What is read as a url has a scheme in front. -/
theorem exists_scheme_of_parse {cs : List Char} {u : Url} (h : parse cs = .ok u) :
    ∃ c scheme rest, tidy cs = c :: scheme ++ ':' :: rest ∧ ∀ x ∈ c :: scheme, isSchemeChar x = true := by
  cases hsplit : splitScheme? (tidy cs) with
  | none => simp [parse, hsplit] at h
  | some x =>
    unfold splitScheme? at hsplit
    split at hsplit
    · rename_i c scheme rest hname hrest
      refine ⟨c, scheme, rest, ?_, fun x hx => List.mem_takeWhile_imp (hname ▸ hx)⟩
      rw [← hname, ← hrest, List.takeWhile_append_dropWhile]
    · cases hsplit

/-- The text behind the last at sign. -/
def hostText (cs : List Char) : List Char := (cs.reverse.takeWhile (· != '@')).reverse

/-- The text up to its last at sign, with another at sign in front of it. -/
def moreInfo (cs : List Char) : List Char :=
  match cs.reverse.dropWhile (· != '@') with
  | _ :: before => '@' :: before.reverse
  | [] => []

theorem splitAtSign?_append (u cs : List Char) :
    splitAtSign? (u ++ '@' :: cs) = some (u ++ moreInfo cs, hostText cs) := by
  have hr : (u ++ '@' :: cs).reverse = cs.reverse ++ '@' :: u.reverse := by simp
  rw [splitAtSign?, hr, moreInfo, hostText]
  rcases forall_or_exists_stop (· != '@') cs.reverse with hall | ⟨run, c, more, he, hrun, hc⟩
  · rw [takeWhile_append_stop hall (by decide), dropWhile_append_stop hall (by decide),
      List.takeWhile_eq_self_iff.2 hall, List.dropWhile_eq_nil_iff.mpr hall]
    simp
  · obtain rfl : c = '@' := by simpa using hc
    rw [he, List.append_assoc, List.cons_append, takeWhile_append_stop hrun hc, dropWhile_append_stop hrun hc,
      takeWhile_append_stop hrun hc, dropWhile_append_stop hrun hc]
    simp

theorem hostText_subset (cs : List Char) : hostText cs ⊆ cs := fun c hc => by
  simpa using (List.takeWhile_sublist _).subset (List.mem_reverse.mp hc)

/-! The host and its port -/

theorem splitHost_append (inBrackets : Bool) (cs : List Char) :
    (splitHost inBrackets cs).1 ++ (splitHost inBrackets cs).2 = cs := by
  induction cs generalizing inBrackets with
  | nil => rfl
  | cons c cs ih =>
    rw [splitHost]
    split
    · rfl
    · simp [ih]

theorem port?_subset {port : Option Nat} (h : port? kind text = .ok (port, rest)) : rest ⊆ text := by
  simp only [port?, Decimal.run, List.span_eq_takeWhile_dropWhile] at h
  generalize (decide (_ > 65535) || _) = refused at h
  cases refused with
  | true => cases h
  | false =>
    cases h
    exact (List.dropWhile_sublist _).subset

theorem hostAndPort_subset {host : Option Host} {port : Option Nat}
    (h : hostAndPort kind text = .ok (host, port, rest)) : rest ⊆ text := by
  have hsplit := splitHost_append false text
  rw [hostAndPort] at h
  generalize splitHost false text = parts at h hsplit
  obtain ⟨front, behind⟩ := parts
  dsimp only at h hsplit
  split at h
  · split at h
    · cases h
    · cases h
      exact List.nil_subset _
  · split at h <;> obtain ⟨found, -, h⟩ := exists_of_bind_ok h
    all_goals
      split at h
      · obtain ⟨⟨_, more⟩, hport, h⟩ := exists_of_bind_ok h
        cases h
        rw [← hsplit]
        exact fun x hx => List.mem_append_right _ (List.mem_cons_of_mem _ (port?_subset hport hx))
      · cases h
        exact List.nil_subset _

/-- The url of a proxy without credentials, query and fragment, from the text behind the userinfo up to its query or
fragment. -/
def site (scheme : List Char) (kind : SchemeKind) (cs : List Char) : Except UrlError Url := do
  let (host, port, rest) ← hostAndPort kind (hostText (cs.takeWhile (!endsAuthority kind.isSpecial ·)))
  if host.isNone then throw .emptyHost
  let path := pathSegments kind (rest ++ cs.dropWhile (!endsAuthority kind.isSpecial ·))
  return { scheme, authority := some { host, port }, path := .segments path }

/-- The url with the credentials that a text writes. -/
def withInfo (url : Url) (info : List Char) : Url :=
  { url with authority := url.authority.map fun a => { a with
      username := (credentials info).1
      password := (credentials info).2 } }

theorem encode_ne_nil {set : Percent.EncodeSet} (h : text ≠ []) : Percent.encode set text ≠ [] := by
  obtain ⟨c, cs, rfl⟩ := List.exists_cons_of_ne_nil h
  rw [Percent.encode, List.flatMap_cons]
  refine List.append_ne_nil_of_left_ne_nil ?_ _
  split
  · obtain ⟨b, bs, hb⟩ := List.exists_cons_of_ne_nil (String.utf8EncodeChar_ne_nil : String.utf8EncodeChar c ≠ [])
    rw [hb, List.flatMap_cons]
    exact List.append_ne_nil_of_left_ne_nil (List.cons_ne_nil _ _) _
  · exact List.cons_ne_nil _ _

theorem credentials_ne_nil (h : IsInfo u) (more : List Char) : (credentials (u ++ more)).1 ≠ [] := by
  obtain ⟨c, r, rfl, hc, -⟩ := h.exists_cons
  exact encode_ne_nil (by simp [hc])

theorem authorityOf_append (h : IsInfo u) (cs : List Char) (more : Bool) :
    authorityOf kind (u ++ '@' :: cs) more = do
      let (host, port, rest) ← hostAndPort kind (hostText cs)
      if host.isNone then throw .emptyHost
      let (username, password) := credentials (u ++ moreInfo cs)
      return ({ username, password, host, port }, rest) := by
  have hname := credentials_ne_nil h (moreInfo cs)
  have hne : u ++ moreInfo cs ≠ [] := by simp [h.ne_nil]
  simp only [authorityOf, splitAtSign?_append, Authority.hasCredentials]
  cases hostAndPort kind (hostText cs) with
  | error e => simp [hne, bind, Except.bind]
  | ok parts => simp [hne, hname, bind, Except.bind, pure, Except.pure]

theorem endsAuthority_of_endsPath (special : Bool) (h : endsPath c = true) : endsAuthority special c = true := by
  rcases (by simpa [endsPath] using h : c = '?' ∨ c = '#') with rfl | rfl <;> simp [endsAuthority]

/-- The url behind userinfo, with the credentials that the userinfo writes. -/
theorem ofAuthority_append (h : IsInfo u) (htext : ∀ c ∈ text, endsPath c = false)
    (htail : ∀ c ∈ tail.head?, endsPath c = true) (scheme : List Char) (kind : SchemeKind) :
    ofAuthority scheme kind (u ++ '@' :: text ++ tail) = (site scheme kind text).map fun url =>
      (url.withInfo (u ++ moreInfo (text.takeWhile (!endsAuthority kind.isSpecial ·)))).withTail kind tail := by
  have hinfo : ∀ c ∈ u ++ ['@'], (!endsAuthority kind.isSpecial c) = true := by
    refine List.forall_mem_append.mpr ⟨fun c hc => by simp [h.not_endsAuthority _ c hc], ?_⟩
    simp [endsAuthority, isSlash]
  have hat : u ++ '@' :: text = u ++ ['@'] ++ text := by simp
  have hspan : (u ++ '@' :: text ++ tail).span (!endsAuthority kind.isSpecial ·) =
      (u ++ '@' :: text.takeWhile (!endsAuthority kind.isSpecial ·),
        text.dropWhile (!endsAuthority kind.isSpecial ·) ++ tail) := by
    rw [span_append_of_head _ fun c hc => by simp [endsAuthority_of_endsPath _ (htail c hc)], hat,
      List.takeWhile_append_of_pos hinfo, List.dropWhile_append_of_pos hinfo]
    simp
  rw [ofAuthority, hspan]
  dsimp only
  rw [authorityOf_append h, site]
  cases hread : hostAndPort kind (hostText (text.takeWhile (!endsAuthority kind.isSpecial ·))) with
  | error e => rfl
  | ok parts =>
    obtain ⟨host, port, rest⟩ := parts
    cases host with
    | none => rfl
    | some host =>
      have hrest : ∀ c ∈ rest ++ text.dropWhile (!endsAuthority kind.isSpecial ·), (!endsPath c) = true := by
        refine List.forall_mem_append.mpr ⟨fun c hc => ?_, fun c hc => ?_⟩
        · have hc := (List.takeWhile_sublist _).subset (hostText_subset _ (hostAndPort_subset hread hc))
          simp [htext c hc]
        · simp [htext c ((List.dropWhile_sublist _).subset hc)]
      have hpath : splitTail (rest ++ (text.dropWhile (!endsAuthority kind.isSpecial ·) ++ tail)) =
          (rest ++ text.dropWhile (!endsAuthority kind.isSpecial ·), tail) := by
        rw [splitTail, ← List.append_assoc, span_append_of_head _ fun c hc => by simp [htail c hc],
          List.takeWhile_eq_self_iff.2 hrest, List.dropWhile_eq_nil_iff.mpr hrest, List.nil_append]
      simp only [bind, Except.bind, pure, Except.pure, Except.map, Option.isNone_some, Bool.false_eq_true, if_false,
        hpath]
      rfl

theorem host_withInfo (url : Url) (info : List Char) : (url.withInfo info).host = url.host := by
  cases h : url.authority <;> simp [withInfo, host, h]

theorem site_ok {url : Url} (h : site scheme kind text = .ok url) : url.scheme = scheme ∧ url.host.isNone = false := by
  obtain ⟨⟨host, port, rest⟩, -, h⟩ := exists_of_bind_ok h
  cases host with
  | none => cases h
  | some host =>
    cases h
    exact ⟨rfl, rfl⟩

theorem schemes_lower {name : String} (hs : name ∈ ProxyUrl.schemes) : ∃ c r, name.toList = c :: r ∧
    c.isAlpha = true ∧ (∀ x ∈ r, isSchemeChar x = true) ∧ name.toList.map Char.toLower = name.toList ∧
    ∀ x ∈ name.toList, isEdge x = false := by
  simp only [ProxyUrl.schemes, List.mem_cons, List.not_mem_nil, or_false] at hs
  rcases hs with rfl | rfl | rfl | rfl | rfl
  all_goals exact ⟨_, _, rfl, by decide, by decide, by decide, by decide⟩

theorem parse_link_eq {name : String} (hs : name ∈ ProxyUrl.schemes) (hu : IsInfo u) (r : List Char) :
    parse (link name.toList u r) = ofAuthority name.toList (SchemeKind.of name.toList) (u ++ '@' :: tidied r) := by
  obtain ⟨c, more, hname, hc, hmore, hlower, hedge⟩ := schemes_lower hs
  have htidy : tidy (link name.toList u r) = name.toList ++ ':' :: '/' :: '/' :: u ++ '@' :: tidied r := by
    have hfront : ∀ x ∈ name.toList ++ "://".toList ++ u ++ ['@'], isEdge x = false := by
      simp only [List.forall_mem_append]
      exact ⟨⟨⟨hedge, by decide⟩, hu.not_isEdge⟩, by decide⟩
    have h := tidy_append (by simp) hfront r
    simpa [link] using h
  have hsplit : splitScheme? (tidy (link name.toList u r)) =
      some (name.toList, '/' :: '/' :: u ++ '@' :: tidied r) := by
    have h := splitScheme?_append hc hmore ('/' :: '/' :: u ++ '@' :: tidied r)
    rw [← hname, hlower] at h
    simpa [htidy] using h
  obtain ⟨d, v, rfl, -, hd⟩ := hu.exists_cons
  have hslashes : ('/' :: '/' :: (d :: v) ++ '@' :: tidied r).dropWhile (isSlash true) = d :: v ++ '@' :: tidied r := by
    simp [List.dropWhile_cons_of_pos, show isSlash true '/' = true from rfl, hd]
  rw [parse, hsplit]
  simp only [ProxyUrl.schemes, List.mem_cons, List.not_mem_nil, or_false] at hs
  rcases hs with rfl | rfl | hs
  · exact congrArg (ofAuthority _ _) hslashes
  · exact congrArg (ofAuthority _ _) hslashes
  · rcases hs with rfl | rfl | rfl <;> rfl

/-- The proxy that a url with userinfo names: all of it but the credentials can be read behind the userinfo. -/
theorem parse_link {name : String} (hs : name ∈ ProxyUrl.schemes) (hu : IsInfo u) (r : List Char) :
    ∃ info, parse (link name.toList u r) = (site name.toList (SchemeKind.of name.toList) (beforeTail r)).map fun url =>
      (url.withInfo (u ++ info)).withTail (SchemeKind.of name.toList) (tailOf r) := by
  obtain ⟨hbefore, htail, hr⟩ := beforeTail_append_tailOf r
  have h := ofAuthority_append hu hbefore htail name.toList (SchemeKind.of name.toList)
  rw [parse_link_eq hs hu, ← hr]
  exact ⟨_, by simpa using h⟩

end ProxyWatch.Url
