import Mathlib.Data.List.Forall2
import ProxyWatch.Proofs.Redaction.Keywords

/-! Texts that are nothing but a keyword and a value. The value is masked whatever it is; in a header with two keywords
the first one takes the second for its value, and the value behind both is masked as if it stood alone. -/
namespace ProxyWatch.Redaction

open Pattern

/-- The texts with a keyword in front of a value. -/
inductive SecretForm
  | authorization
  | bearer
  | token
  | password
  | apiKey
  | secret
  /-- A header with two keywords. -/
  | authorizationBearer
  deriving DecidableEq

/-- What stands in front of the value, in lower case. -/
def SecretForm.front : SecretForm → List Char
  | authorization => "authorization: ".toList
  | bearer => "bearer ".toList
  | token => "token=".toList
  | password => "password: ".toList
  | apiKey => "api_key=".toList
  | secret => "secret=".toList
  | authorizationBearer => "authorization: bearer ".toList

variable {c : Char} {cs word front seps w : List Char} {words : List (List Char)} {k : Keyword}

theorem eq_of_lowered (h : lowered cs = seps) (hs : ∀ c ∈ seps, c.isLower = false) : cs = seps := by
  subst h
  refine (List.map_id cs).symm.trans (List.map_congr_left fun c hc => ?_)
  exact eq_of_lower rfl (hs _ (List.mem_map_of_mem hc))

/-- A keyword in any case, and then what has but one. -/
theorem exists_key (word seps : List Char) (h : lowered front = word ++ seps) (hs : ∀ c ∈ seps, c.isLower = false) :
    ∃ key, front = key ++ seps ∧ lowered key = word := by
  obtain ⟨key, behind, rfl, hkey, hbehind⟩ := List.map_eq_append_iff.mp h
  exact ⟨key, by rw [eq_of_lowered hbehind hs], hkey⟩

theorem no_blank_of_lowered (h : lowered cs = word) (hw : ∀ c ∈ word, Blank.isBlank c = false) :
    ∀ c ∈ cs, Blank.isBlank c = false := by
  intro c hc
  cases hb : Blank.isBlank c with
  | false => rfl
  | true =>
    have hc : c ∈ word := h ▸ List.mem_map.mpr ⟨c, hc, lower_of_isBlank hb⟩
    exact (hw c hc).symm.trans hb |>.symm

theorem maskOpaque_of_mem (hc : c ∈ cs) (ho : isOpaque c = false) : maskOpaque cs = cs := by
  refine if_neg fun h => ?_
  have hall : ∀ x ∈ cs, isOpaque x = true := List.all_eq_true.mp (Bool.and_eq_true_iff.mp h).2
  simp [hall c hc] at ho

theorem maskEach_nil (ks : List Keyword) : maskEach ks [] = [] := by
  induction ks with
  | nil => rfl
  | cons k ks ih => rw [maskEach, List.foldl_cons, replaceAll_nil, ← maskEach, ih]

/-- What is left of a value that is masked on its own. -/
def remains (w : List Char) : List Char := maskValues (userinfo.replaceAll w)

theorem maskEach_mask (i : Nat) : maskEach (keywords.drop i) mask = mask := by
  have hfree : ∀ words ∈ spellings, Free words (lowered mask) := by decide
  have h := maskEach_front (List.forall₂_drop i spelled) (fun words hw => hfree words (List.mem_of_mem_drop hw)) []
  rwa [maskEach_nil, List.append_nil] at h

/-- A keyword's match goes to the end of a text that ends with its value. -/
theorem pattern_value (hk : Spelled k words) (hword : word ∈ words) (hfront : lowered front = word ++ seps)
    (hne : seps ≠ []) (hsep : ∀ c ∈ seps, k.isSeparator c = true ∧ c.isLower = false)
    (hvalue : ∀ c, Blank.isBlank c = false ∧ c ≠ '&' → k.isValue c = true) (hw : IsValue w) :
    k.pattern (front ++ w) = some (mask, []) := by
  obtain ⟨key, rfl, hkey⟩ := exists_key _ _ hfront fun c hc => (hsep c hc).2
  have hafter : k.after (key ++ seps ++ w) = some (seps ++ w) := by
    rw [List.append_assoc, hk.after_append (hkey ▸ hword)]
  have hend : afterSeparated k.isSeparator k.isValue (seps ++ w) = some [] :=
    afterSeparated_value (fun c hc => (hsep c hc).1) hne (fun c hc => hvalue c (hw.plain c hc)) hw.ne_nil
  exact pattern_eq_some.mpr ⟨rfl, _, hafter, hend⟩

/-- A keyword and its value are masked together. The keywords that are looked for earlier only change the value. -/
theorem maskValues_value (i : Nat) (seps : List Char) (hk : keywords[i]? = some k) (hs : spellings[i]? = some words)
    (hword : word ∈ words) (hfront : lowered front = word ++ seps) (hne : seps ≠ [])
    (hsep : ∀ c ∈ seps, k.isSeparator c = true ∧ c.isLower = false)
    (hvalue : ∀ c, Blank.isBlank c = false ∧ c ≠ '&' → k.isValue c = true)
    (hf : ∀ words ∈ spellings.take i, Free words (word ++ seps)) (hw : IsValue w) :
    maskValues (front ++ w) = mask := by
  have hspelled : Spelled k words := spelled_of_getElem? hk hs
  have hearlier := List.forall₂_take i spelled
  have hsplit : keywords = keywords.take i ++ k :: keywords.drop (i + 1) := by
    obtain ⟨hi, rfl⟩ := List.getElem?_eq_some_iff.mp hk
    rw [List.getElem_cons_drop, List.take_append_drop]
  obtain ⟨c, r, hcons⟩ : ∃ c r, front ++ maskEach (keywords.take i) w = c :: r := by
    refine List.exists_cons_of_ne_nil fun h => hne ?_
    rw [(List.append_eq_nil_iff.mp h).1] at hfront
    exact (List.append_eq_nil_iff.mp hfront.symm).2
  have hmatch := pattern_value hspelled hword hfront hne hsep hvalue (isValue_maskEach hearlier hw)
  rw [hcons] at hmatch
  calc maskValues (front ++ w)
      = maskEach (keywords.take i ++ k :: keywords.drop (i + 1)) (front ++ w) := by
        rw [← hsplit]
        rfl
    _ = maskEach (keywords.drop (i + 1)) (k.pattern.replaceAll (maskEach (keywords.take i) (front ++ w))) := by
        rw [maskEach, List.foldl_append, List.foldl_cons]
        rfl
    _ = maskEach (keywords.drop (i + 1)) mask := by
        rw [maskEach_front hearlier (hfront ▸ hf), hcons, replaceAll_of_some hmatch (Nat.zero_le _), replaceAll_nil,
          List.append_nil]
    _ = mask := maskEach_mask (i + 1)

/-- The value of a keyword ends in front of white space, also where it is another keyword. -/
theorem pattern_header {key bearer : List Char} (hk : Spelled k ["authorization".toList])
    (hsep : k.isSeparator = colonEqualsBlank) (hvalue : k.isValue = notBlank)
    (hkey : lowered key = "authorization".toList) (hbearer : lowered bearer = "bearer".toList) (w : List Char) :
    k.pattern (key ++ (": ".toList ++ (bearer ++ ' ' :: w))) = some (mask, ' ' :: w) := by
  obtain ⟨b, r, rfl⟩ : ∃ b r, bearer = b :: r := List.exists_cons_of_ne_nil fun h => by simp [h, lowered] at hbearer
  have hb : lower b = 'b' := (List.cons.inj hbearer).1
  have hblank := no_blank_of_lowered hbearer (by decide)
  have hstart : colonEqualsBlank b = false := by
    have hne : b ≠ ':' ∧ b ≠ '=' := by
      constructor <;> rintro rfl <;> exact absurd hb (by decide)
    simp [colonEqualsBlank, hne, hblank b (List.mem_cons_self ..)]
  have hafter : afterValue notBlank (b :: r ++ ' ' :: w) = some (' ' :: w) := by
    have hnot : ∀ x ∈ b :: r, notBlank x = true := fun x hx => by simp [notBlank, hblank x hx]
    obtain ⟨hb, hr⟩ := List.forall_mem_cons.mp hnot
    rw [List.cons_append, afterValue, if_pos hb, dropWhile_append_stop hr (by decide)]
  have hend : afterSeparated k.isSeparator k.isValue (": ".toList ++ (b :: r ++ ' ' :: w)) = some (' ' :: w) := by
    rw [hsep, hvalue]
    refine afterSeparated_append (by decide) (by decide) ?_
    rw [hafter, List.cons_append, afterSeparated, hstart]
    rfl
  exact pattern_eq_some.mpr ⟨rfl, _, hk.after_append (by rw [hkey]; exact List.mem_singleton_self _) _, hend⟩

/-- Only the other keyword is masked where a value is announced by two. -/
theorem maskValues_header (hf : lowered front = SecretForm.authorizationBearer.front) (w : List Char) :
    maskValues (front ++ w) = mask ++ ' ' :: maskValues w := by
  obtain ⟨header, rfl, hheader⟩ :=
    exists_key "authorization: bearer".toList " ".toList hf (by decide)
  obtain ⟨front, bearer, rfl, hfront, hbearer⟩ := List.map_eq_append_iff.mp (show header.map lower =
    "authorization: ".toList ++ "bearer".toList from hheader)
  obtain ⟨key, rfl, hkey⟩ := exists_key "authorization".toList ": ".toList hfront (by decide)
  obtain ⟨k, ks, hks, hk, hsep, hvalue, hspelt⟩ : ∃ k ks, keywords = k :: ks ∧ Spelled k ["authorization".toList] ∧
      k.isSeparator = colonEqualsBlank ∧ k.isValue = notBlank ∧ List.Forall₂ Spelled ks spellings.tail :=
    ⟨_, _, rfl, spelled_of_getElem? (i := 0) rfl rfl, rfl, rfl, List.forall₂_drop 1 spelled⟩
  obtain ⟨c, cs, hcons⟩ : ∃ c cs, key ++ (": ".toList ++ bearer) = c :: cs :=
    List.exists_cons_of_ne_nil (List.append_ne_nil_of_right_ne_nil _ (List.append_ne_nil_of_left_ne_nil (by decide) _))
  have htext : key ++ (": ".toList ++ (bearer ++ ' ' :: w)) = c :: (cs ++ ' ' :: w) := by
    rw [← List.append_assoc ": ".toList, ← List.append_assoc, hcons]
    rfl
  have hmatch := pattern_header hk hsep hvalue hkey hbearer w
  rw [htext] at hmatch
  have hrest : maskEach ks (mask ++ " ".toList ++ k.pattern.replaceAll w) =
      mask ++ " ".toList ++ maskEach ks (k.pattern.replaceAll w) := maskEach_front hspelt (by decide) _
  have hspace : k.pattern.replaceAll (" ".toList ++ w) = " ".toList ++ k.pattern.replaceAll w :=
    hk.pass (by decide) w
  have hlength : (' ' :: w).length ≤ (cs ++ ' ' :: w).length := by simp
  calc maskValues (key ++ ": ".toList ++ bearer ++ " ".toList ++ w)
      = maskEach ks (k.pattern.replaceAll (c :: (cs ++ ' ' :: w))) := by
        rw [← htext, maskValues, hks]
        simp [maskEach]
    _ = maskEach ks (mask ++ " ".toList ++ k.pattern.replaceAll w) := by
        rw [replaceAll_of_some hmatch hlength, List.append_assoc, ← hspace]
        rfl
    _ = mask ++ ' ' :: maskValues w := by
        rw [hrest, maskValues, hks, List.append_assoc]
        rfl

theorem SecretForm.exists_last (f : SecretForm) : ∃ word e, f.front = word ++ [e] ∧ isSchemeRest e = false ∧
    e.isLower = false ∧ e ≠ ':' ∧ '/' ∉ f.front := by
  refine ⟨f.front.dropLast, f.front.getLast (by cases f <;> decide), (List.dropLast_concat_getLast _).symm, ?_⟩
  cases f <;> decide

/-- What is shown of a keyword and its value. -/
theorem text_form {f : SecretForm} (hf : lowered front = f.front) (hw : IsValue w) :
    text (front ++ w) = if f = .authorizationBearer then mask ++ ' ' :: remains w else mask := by
  have hinfo : userinfo.replaceAll (front ++ w) = front ++ userinfo.replaceAll w := by
    obtain ⟨word, e, hlast, hrest, hlower, hcolon, hslash⟩ := f.exists_last
    obtain ⟨key, rfl, -⟩ := exists_key _ _ (hf.trans hlast) (by simpa using hlower)
    refine userinfo_pass (fun hmem => hslash ?_) hrest hcolon w
    exact hf ▸ List.mem_map.mpr ⟨'/', hmem, by decide⟩
  have hv := isValue_userinfo hw
  have hopaque : ∀ cs, maskOpaque (mask ++ cs) = mask ++ cs := fun cs =>
    maskOpaque_of_mem (List.mem_append_left _ (by decide : '[' ∈ mask)) (by decide)
  have hplain : ∀ c, Blank.isBlank c = false ∧ c ≠ '&' → notBlank c = true := fun c hc => by simp [notBlank, hc.1]
  have hampersand : ∀ c, Blank.isBlank c = false ∧ c ≠ '&' → notBlankAmpersand c = true := fun c hc => by
    simp [notBlankAmpersand, hc.1, hc.2]
  -- Which of the keywords it is, what separates it from its value, and that no earlier one is found in it.
  have hmask : f ≠ .authorizationBearer → maskValues (front ++ userinfo.replaceAll w) = mask := by
    intro hne
    cases f with
    | authorizationBearer => exact absurd rfl hne
    | authorization =>
      exact maskValues_value 0 ": ".toList rfl rfl (List.mem_singleton_self _) hf (by decide)
        (by decide) hplain (by decide) hv
    | bearer =>
      exact maskValues_value 1 " ".toList rfl rfl (List.mem_singleton_self _) hf (by decide)
        (by decide) hplain (by decide) hv
    | token =>
      exact maskValues_value 2 "=".toList rfl rfl (List.mem_singleton_self _) hf (by decide)
        (by decide) hampersand (by decide) hv
    | password =>
      exact maskValues_value 3 ": ".toList rfl rfl (List.mem_singleton_self _) hf (by decide)
        (by decide) hampersand (by decide) hv
    | apiKey =>
      exact maskValues_value 4 "=".toList rfl rfl (List.mem_cons_self ..) hf (by decide)
        (by decide) hampersand (by decide) hv
    | secret =>
      exact maskValues_value 5 "=".toList rfl rfl (List.mem_singleton_self _) hf (by decide)
        (by decide) hampersand (by decide) hv
  rw [text_eq, hinfo]
  split
  · rename_i h
    subst h
    rw [maskValues_header hf, hopaque, remains]
  · rename_i h
    rw [hmask h]
    exact hopaque []

/-- A value in which nothing is found stays as it is. -/
theorem remains_eq (hv : ∀ words ∈ spellings, Free words (lowered w)) (hu : ∀ x ∈ w.tails, x ≠ [] → userinfo x = none) :
    remains w = w := by
  have hinfo : userinfo.replaceAll w = w := by
    have h : userinfo.replaceAll (w ++ []) = w ++ userinfo.replaceAll [] := replaceAll_append fun x hx hne => by
      rw [List.append_nil]
      exact hu x ((List.mem_tails ..).mpr hx) hne
    rwa [replaceAll_nil, List.append_nil] at h
  have h := maskEach_front spelled hv []
  rw [maskEach_nil, List.append_nil] at h
  rw [remains, hinfo]
  exact h

/-- What is shown of a keyword and a value is the same for all values. Only behind two keywords two values are shown
alike exactly if they are when they are masked on their own. -/
theorem secret_hidden_iff {f : SecretForm} {v w : List Char} (hf : lowered front = f.front) (hv : IsValue v)
    (hw : IsValue w) :
    text (front ++ v) = text (front ++ w) ↔ (f = .authorizationBearer → remains v = remains w) := by
  rw [text_form hf hv, text_form hf hw]
  by_cases h : f = .authorizationBearer
  · simp [h]
  · simp [h]

/-- A value that looks like another keyword with a value, and one that looks like a url with userinfo. -/
theorem secret_hidden_iff_password : lowered "PassWord: ".toList = SecretForm.password.front ∧
    IsValue "bearer:=token=x".toList ∧ IsValue "http://u:p@host".toList ∧
    text ("PassWord: ".toList ++ "bearer:=token=x".toList) =
      text ("PassWord: ".toList ++ "http://u:p@host".toList) := by
  have hf : lowered "PassWord: ".toList = SecretForm.password.front := by decide
  have hv : IsValue "bearer:=token=x".toList := ⟨by decide, by decide⟩
  have hw : IsValue "http://u:p@host".toList := ⟨by decide, by decide⟩
  exact ⟨hf, hv, hw, (secret_hidden_iff hf hv hw).mpr fun h => by cases h⟩

/-- The credential of a header with two words is shown in full. -/
theorem header_shows_credential : text "Authorization: Bearer hunter2".toList = "[REDACTED] hunter2".toList ∧
    ¬ ∀ (f : SecretForm) (front v w : List Char), lowered front = f.front → IsValue v → IsValue w →
      text (front ++ v) = text (front ++ w) := by
  have hf : lowered "Authorization: Bearer ".toList = SecretForm.authorizationBearer.front := by decide
  have hshown : ∀ w, IsValue w → remains w = w →
      text ("Authorization: Bearer ".toList ++ w) = "[REDACTED] ".toList ++ w := by
    intro w hw hr
    rw [text_form hf hw, if_pos rfl, hr]
    rfl
  have hv : IsValue "hunter2".toList := ⟨by decide, by decide⟩
  have hw : IsValue "swordfish".toList := ⟨by decide, by decide⟩
  have hshown₁ := hshown _ hv (remains_eq (by decide) (by decide))
  have hshown₂ := hshown _ hw (remains_eq (by decide) (by decide))
  refine ⟨hshown₁, fun h => ?_⟩
  have he := h .authorizationBearer _ _ _ hf hv hw
  rw [hshown₁, hshown₂] at he
  exact absurd he (by decide)

end ProxyWatch.Redaction
