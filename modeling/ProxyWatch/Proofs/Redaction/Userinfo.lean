import ProxyWatch.Proofs.Text.Pattern
import ProxyWatch.Proofs.Text.Run
import ProxyWatch.Redaction
import ProxyWatch.Url.Parser

/-! Urls with userinfo inside a text. Whatever stands around such a url, its userinfo is masked, and nothing that is
left of the text depends on it. -/
namespace ProxyWatch.Redaction

open Pattern

/-- A url scheme: an ASCII letter, then ASCII letters, digits, plus and minus signs and points. -/
def IsScheme (cs : List Char) : Prop := ∃ c r, cs = c :: r ∧ c.isAlpha = true ∧ ∀ x ∈ r, Url.isSchemeChar x = true

/-- Userinfo that can be told from the rest of its url. -/
structure IsUserinfo (cs : List Char) : Prop where
  ne_nil : cs ≠ []
  no_slash : '/' ∉ cs
  no_at : '@' ∉ cs
  no_blank : ∀ c ∈ cs, Blank.isBlank c = false

/-- A url with userinfo in front of the rest of it. -/
def link (scheme info rest : List Char) : List Char := scheme ++ "://".toList ++ info ++ '@' :: rest

variable {scheme info front run rest us u v : List Char} {c : Char}

theorem isSchemeRest_of_isSchemeChar (h : Url.isSchemeChar c = true) : isSchemeRest c = true := by
  simp only [Url.isSchemeChar, Char.isAlphanum, Bool.or_eq_true] at h
  rcases h with (((h | h) | h) | h) | h <;> simp [isSchemeRest, isSchemeStart, h]

theorem isSchemeRest_of_isAlpha (h : c.isAlpha = true) : isSchemeRest c = true := by
  simp [isSchemeRest, isSchemeStart, h]

theorem IsScheme.isSchemeRest (h : IsScheme scheme) : ∀ x ∈ scheme, isSchemeRest x = true := by
  obtain ⟨c, r, rfl, hc, hr⟩ := h
  exact List.forall_mem_cons.mpr ⟨isSchemeRest_of_isAlpha hc, fun x hx => isSchemeRest_of_isSchemeChar (hr x hx)⟩

theorem IsUserinfo.isUserinfo (h : IsUserinfo u) : ∀ c ∈ u, Redaction.isUserinfo c = true := by
  intro c hc
  have hs : c ≠ '/' := fun he => h.no_slash (he ▸ hc)
  have ha : c ≠ '@' := fun he => h.no_at (he ▸ hc)
  simp [Redaction.isUserinfo, hs, ha, h.no_blank c hc]

theorem isAlphanum_eq (c : Char) : c.isAlphanum =
    (decide (c.val ≥ 65 ∧ c.val ≤ 90) || (c.val ≥ 97 && c.val ≤ 122) || (c.val ≥ 48 && c.val ≤ 57)) := rfl

/-- The characters of a scheme could also be those of userinfo. -/
theorem isUserinfo_of_isSchemeChar (h : Url.isSchemeChar c = true) : isUserinfo c = true := by
  have hslash : c ≠ '/' := by
    rintro rfl
    exact absurd h (by decide)
  have hat : c ≠ '@' := by
    rintro rfl
    exact absurd h (by decide)
  have hrange : 33 ≤ c.val.toNat ∧ c.val.toNat ≤ 122 := by
    simp only [Url.isSchemeChar, isAlphanum_eq, Bool.or_eq_true, Bool.and_eq_true, decide_eq_true_eq, beq_iff_eq,
      UInt32.le_iff_toNat_le, ge_iff_le, UInt32.reduceToNat] at h
    rcases h with ((h | rfl) | rfl) | rfl
    · omega
    all_goals decide
  have hblank : Blank.isBlank c = false := by
    simp only [Blank.isBlank, Bool.or_eq_false_iff, Bool.and_eq_false_iff, decide_eq_false_iff_not,
      beq_eq_false_iff_ne, Char.toNat]
    omega
  simp [isUserinfo, hslash, hat, hblank]

theorem IsScheme.isUserinfo (h : IsScheme scheme) : ∀ x ∈ scheme, Redaction.isUserinfo x = true := by
  obtain ⟨c, r, rfl, hc, hr⟩ := h
  have hc : Url.isSchemeChar c = true := by simp [Url.isSchemeChar, Char.isAlphanum, hc]
  exact List.forall_mem_cons.mpr ⟨isUserinfo_of_isSchemeChar hc, fun x hx => isUserinfo_of_isSchemeChar (hr x hx)⟩

/-! What the pattern finds -/

/-- Behind a scheme stands userinfo up to an at sign. -/
theorem userinfo_of_info (hc : isSchemeStart c = true) (hr : ∀ x ∈ run, isSchemeRest x = true) (hu : us ≠ [])
    (hinfo : ∀ x ∈ us, isUserinfo x = true) (rest : List Char) :
    userinfo (c :: run ++ ':' :: '/' :: '/' :: us ++ '@' :: rest) = some (c :: run ++ "://***@".toList, rest) := by
  have hcolon : isSchemeRest ':' = false := by decide
  have hat : isUserinfo '@' = false := by decide
  simp only [userinfo, List.cons_append, List.append_assoc, hc, if_true, takeWhile_append_stop hr hcolon,
    dropWhile_append_stop hr hcolon, takeWhile_append_stop hinfo hat, dropWhile_append_stop hinfo hat]
  cases us with
  | nil => exact absurd rfl hu
  | cons x xs => rfl

/-- Userinfo that another character than an at sign ends is none. -/
theorem userinfo_of_stop {d : Char} (hr : ∀ x ∈ run, isSchemeRest x = true)
    (hinfo : ∀ x ∈ us, isUserinfo x = true) (hd : isUserinfo d = false) (hne : us = [] ∨ d ≠ '@')
    (rest : List Char) :
    userinfo (c :: run ++ ':' :: '/' :: '/' :: us ++ d :: rest) = none := by
  have hcolon : isSchemeRest ':' = false := by decide
  simp only [userinfo, List.cons_append, List.append_assoc, takeWhile_append_stop hr hcolon,
    dropWhile_append_stop hr hcolon, takeWhile_append_stop hinfo hd, dropWhile_append_stop hinfo hd]
  split
  · rcases hne with rfl | hne
    · rfl
    · split
      · simp_all
      · rfl
  · rfl

/-- A scheme that no two slashes follow begins no match. -/
theorem userinfo_of_no_slashes {d : Char} (hr : ∀ x ∈ run, isSchemeRest x = true) (hd : isSchemeRest d = false)
    (hne : ∀ r, d :: rest ≠ ':' :: '/' :: '/' :: r) : userinfo (c :: run ++ d :: rest) = none := by
  simp only [userinfo, List.cons_append, dropWhile_append_stop hr hd]
  split <;> rfl

/-- No match begins in a text that has no slashes and ends in what is part neither of a scheme nor of a separator. -/
theorem userinfo_pass {e : Char} (hs : '/' ∉ front ++ [e]) (he : isSchemeRest e = false) (hc : e ≠ ':')
    (rest : List Char) : userinfo.replaceAll (front ++ [e] ++ rest) = front ++ [e] ++ userinfo.replaceAll rest := by
  refine replaceAll_append fun x hx hne => ?_
  obtain ⟨y, rfl, hy⟩ := (List.suffix_concat_iff.mp hx).resolve_left hne
  have hs : '/' ∉ y ++ [e] := fun h => hs (hx.subset h)
  cases y with
  | nil =>
    have hstart : isSchemeStart e = false := by
      simp only [isSchemeRest, Bool.or_eq_false_iff] at he
      exact he.1.1.1.1
    simp [userinfo, hstart]
  | cons c y =>
    rcases forall_or_exists_stop isSchemeRest (y ++ [e]) with hall | ⟨run, d, more, hsplit, hrun, hd⟩
    · exact absurd (hall e (by simp)) (by simp [he])
    · rw [List.cons_append, List.cons_append, hsplit, List.append_assoc, List.cons_append]
      refine userinfo_of_no_slashes hrun hd fun r hr => ?_
      cases more with
      | nil =>
        obtain ⟨-, hde⟩ := List.append_inj' hsplit rfl
        cases hde
        exact hc (List.cons.inj hr).1
      | cons z more =>
        obtain ⟨-, hr⟩ := List.cons.inj hr
        obtain ⟨rfl, -⟩ := List.cons.inj hr
        have hslash : '/' ∈ y ++ [e] := by simp [hsplit]
        exact hs (List.mem_cons_of_mem c hslash)

/-- No match that begins in front of a url with userinfo ends in it, unless it is that of the url itself. -/
theorem userinfo_front_cases (hs : IsScheme scheme) (c : Char) (front rest : List Char) :
    (isSchemeStart c = true ∧ ∀ x ∈ front, isSchemeRest x = true) ∨
    (∃ out behind, behind.length < front.length ∧
      ∀ u, userinfo (c :: front ++ link scheme u rest) = some (out, behind ++ link scheme u rest)) ∨
    ∀ u, userinfo (c :: front ++ link scheme u rest) = none := by
  cases hc : isSchemeStart c with
  | false => exact .inr (.inr fun u => by simp [userinfo, hc])
  | true =>
    rcases forall_or_exists_stop isSchemeRest front with hall | ⟨run, d, more, rfl, hrun, hd⟩
    · exact .inl ⟨rfl, hall⟩
    right
    by_cases hslashes : ∃ body, d :: more = ':' :: '/' :: '/' :: body
    · obtain ⟨body, he⟩ := hslashes
      cases he
      rcases forall_or_exists_stop isUserinfo body with hall | ⟨us, e, behind, rfl, hus, he⟩
      · right
        intro u
        have hinfo : ∀ x ∈ body ++ scheme ++ [':'], isUserinfo x = true := by
          refine List.forall_mem_append.mpr ⟨List.forall_mem_append.mpr ⟨hall, hs.isUserinfo⟩, ?_⟩
          simpa using (by decide : isUserinfo ':' = true)
        have h := userinfo_of_stop (c := c) (d := '/') hrun hinfo (by decide) (.inr (by decide))
          ('/' :: u ++ '@' :: rest)
        simpa [link] using h
      · by_cases hat : us ≠ [] ∧ e = '@'
        · obtain ⟨hne, rfl⟩ := hat
          left
          refine ⟨c :: run ++ "://***@".toList, behind, by simp; omega, fun u => ?_⟩
          have h := userinfo_of_info hc hrun hne hus (behind ++ link scheme u rest)
          simpa using h
        · right
          intro u
          have hne : us = [] ∨ e ≠ '@' := by
            by_cases h : us = []
            · exact .inl h
            · exact .inr fun he => hat ⟨h, he⟩
          have h := userinfo_of_stop (c := c) hrun hus he hne (behind ++ link scheme u rest)
          simpa using h
    · right
      intro u
      obtain ⟨s, r, rfl, hsa, -⟩ := hs
      have hne : ∀ body, d :: (more ++ link (s :: r) u rest) ≠ ':' :: '/' :: '/' :: body := by
        intro body he
        have hslash : s ≠ '/' := by
          rintro rfl
          exact absurd hsa (by decide)
        cases more with
        | nil => simp [link, hslash] at he
        | cons x more =>
          cases more with
          | nil => simp [link, hslash] at he
          | cons y more =>
            simp only [List.cons_append, List.cons.injEq] at he
            obtain ⟨rfl, rfl, rfl, -⟩ := he
            exact hslashes ⟨more, rfl⟩
      have h := userinfo_of_no_slashes (c := c) hrun hd hne
      simpa using h

/-- What is left in front of the userinfo of a url is the same for all userinfo. -/
theorem exists_shown (hs : IsScheme scheme) (front rest : List Char) : ∃ shown, ∀ u, IsUserinfo u →
    userinfo.replaceAll (front ++ link scheme u rest) = shown ++ "***@".toList ++ userinfo.replaceAll rest := by
  have hmask : ∀ c run, isSchemeStart c = true → (∀ x ∈ run, isSchemeRest x = true) → ∀ u, IsUserinfo u →
      userinfo.replaceAll (link (c :: run) u rest) =
        c :: run ++ "://".toList ++ "***@".toList ++ userinfo.replaceAll rest := by
    intro c run hc hrun u hu
    have h := userinfo_of_info hc hrun hu.ne_nil hu.isUserinfo rest
    have hl : rest.length ≤ (run ++ ':' :: '/' :: '/' :: u ++ '@' :: rest).length := by simp; omega
    simpa [link] using replaceAll_of_some h hl
  -- A match in the text in front takes a piece of it away; else one character of it is kept.
  induction hn : front.length using Nat.strongRecOn generalizing front with
  | _ n ih =>
    subst hn
    cases front with
    | nil =>
      obtain ⟨s, r, rfl, hsa, hr⟩ := hs
      exact ⟨_, hmask s r (by simp [isSchemeStart, hsa]) fun x hx => isSchemeRest_of_isSchemeChar (hr x hx)⟩
    | cons c front =>
      rcases userinfo_front_cases hs c front rest with ⟨hc, hall⟩ | ⟨out, behind, hlt, h⟩ | h
      · refine ⟨c :: (front ++ scheme) ++ "://".toList, fun u hu => ?_⟩
        have h := hmask c (front ++ scheme) hc (List.forall_mem_append.mpr ⟨hall, hs.isSchemeRest⟩) u hu
        simpa [link] using h
      · obtain ⟨shown, hshown⟩ := ih behind.length (Nat.lt_succ_of_lt hlt) behind rfl
        refine ⟨out ++ shown, fun u hu => ?_⟩
        have hl : (behind ++ link scheme u rest).length ≤ (front ++ link scheme u rest).length := by
          simp only [List.length_append]
          omega
        have h : userinfo (c :: (front ++ link scheme u rest)) = some (out, behind ++ link scheme u rest) := h u
        rw [List.cons_append, replaceAll_of_some h hl, hshown u hu]
        simp
      · obtain ⟨shown, hshown⟩ := ih front.length (Nat.lt_succ_self _) front rfl
        refine ⟨c :: shown, fun u hu => ?_⟩
        have h : userinfo (c :: (front ++ link scheme u rest)) = none := h u
        rw [List.cons_append, replaceAll_of_none h, hshown u hu]
        rfl

/-- The text with the values of its keywords masked. -/
def maskValues (cs : List Char) : List Char := keywords.foldl (fun acc k => k.pattern.replaceAll acc) cs

theorem text_eq (cs : List Char) : text cs = maskOpaque (maskValues (userinfo.replaceAll cs)) := rfl

/-- Userinfo does not show in a redacted text, whatever stands in front of its url and behind it. What is shown instead
is a mask, in what would be shown anyway. -/
theorem text_hides_userinfo (hs : IsScheme scheme) (front rest : List Char) :
    (∀ u v, IsUserinfo u → IsUserinfo v → text (front ++ link scheme u rest) = text (front ++ link scheme v rest)) ∧
    ∃ shown, ∀ u, IsUserinfo u → text (front ++ link scheme u rest) =
      maskOpaque (maskValues (shown ++ "***@".toList ++ userinfo.replaceAll rest)) := by
  obtain ⟨shown, hshown⟩ := exists_shown hs front rest
  refine ⟨fun u v hu hv => ?_, shown, fun u hu => ?_⟩
  · rw [text_eq, text_eq, hshown u hu, hshown v hv]
  · rw [text_eq, hshown u hu]

/-- A password after another url, and userinfo that looks like a keyword with its value and a port. -/
theorem text_hides_userinfo_password :
    IsScheme "socks5".toList ∧ IsUserinfo "bob:pw".toList ∧ IsUserinfo "token=x:80".toList ∧
    text ("via http://x:1 to ".toList ++ link "socks5".toList "bob:pw".toList "proxy:3128?token=t".toList) =
      text ("via http://x:1 to ".toList ++ link "socks5".toList "token=x:80".toList "proxy:3128?token=t".toList) := by
  have hs : IsScheme "socks5".toList := ⟨'s', "ocks5".toList, rfl, rfl, by decide⟩
  have hu : IsUserinfo "bob:pw".toList := ⟨by decide, by decide, by decide, by decide⟩
  have hv : IsUserinfo "token=x:80".toList := ⟨by decide, by decide, by decide, by decide⟩
  exact ⟨hs, hu, hv, (text_hides_userinfo hs _ _).1 _ _ hu hv⟩

end ProxyWatch.Redaction
