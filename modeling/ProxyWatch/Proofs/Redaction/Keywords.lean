import Mathlib.Data.List.Forall2
import Mathlib.Data.List.Infix
import Mathlib.Data.List.TakeWhile
import ProxyWatch.Proofs.Redaction.Userinfo

/-! Keywords that announce a secret: where they are found, in whatever case, and what masking one of them leaves of a
text and of a value. -/
namespace ProxyWatch.Redaction

open Pattern

/-- The character in lower case. The Kelvin sign and the long s are cases of k and s. -/
def lower (c : Char) : Char := if c = '\u212A' then 'k' else if c = '\u017F' then 's' else c.toLower

/-- The text in lower case. -/
def lowered (cs : List Char) : List Char := cs.map lower

/-- A value that can be told from what stands around it. -/
structure IsValue (cs : List Char) : Prop where
  ne_nil : cs ≠ []
  plain : ∀ c ∈ cs, Blank.isBlank c = false ∧ c ≠ '&'

variable {c l : Char} {cs rest word base front seps w : List Char} {words : List (List Char)} {k : Keyword}

/-! Keywords in any case -/

theorem isCaseOf_iff (hl : l.toNat < 128) : isCaseOf l c = true ↔ lower c = l := by
  have hk : l ≠ '\u212A' := by
    rintro rfl
    exact absurd hl (by decide)
  have hs : l ≠ '\u017F' := by
    rintro rfl
    exact absurd hl (by decide)
  by_cases hck : c = '\u212A'
  · subst hck
    have hlower : Char.toLower '\u212A' = '\u212A' := by decide
    simpa [isCaseOf, lower, hlower, Ne.symm hk] using eq_comm
  · by_cases hcs : c = '\u017F'
    · subst hcs
      have hlower : Char.toLower '\u017F' = '\u017F' := by decide
      simpa [isCaseOf, lower, hlower, Ne.symm hs] using eq_comm
    · simp [isCaseOf, lower, hck, hcs]

/-- Where a keyword is found, and what is behind it. -/
theorem afterKeyword_eq_some (hw : ∀ l ∈ word, l.toNat < 128) :
    afterKeyword word cs = some rest ↔ word <+: lowered cs ∧ cs.drop word.length = rest := by
  induction word generalizing cs with
  | nil => simp [afterKeyword]
  | cons l word ih =>
    obtain ⟨hl, hw⟩ := List.forall_mem_cons.mp hw
    cases cs with
    | nil => simp [afterKeyword, lowered]
    | cons c cs =>
      rw [afterKeyword]
      by_cases h : lower c = l
      · rw [if_pos ((isCaseOf_iff hl).mpr h), ih hw]
        simp [lowered, h]
      · rw [if_neg (mt (isCaseOf_iff hl).mp h)]
        simp [lowered, Ne.symm h]

theorem isLower_eq (c : Char) : c.isLower = (c.val ≥ 97 && c.val ≤ 122) := rfl

/-- Only a capital letter of the English alphabet has a lower case. -/
theorem toLower_cases (c : Char) : c.toLower = c ∨
    (65 ≤ c.val.toNat ∧ c.val.toNat ≤ 90) ∧ c.toLower.val.toNat = c.val.toNat + 32 := by
  by_cases hu : 65 ≤ c.val ∧ c.val ≤ 90
  · have hval : c.toLower.val = c.val + 32 := congrArg Char.val (dif_pos hu)
    simp only [UInt32.le_iff_toNat_le, UInt32.reduceToNat] at hu
    have hsum : (c.val + 32).toNat = c.val.toNat + 32 := by
      simp only [UInt32.toNat_add, UInt32.reduceToNat]
      omega
    exact .inr ⟨hu, hval ▸ hsum⟩
  · exact .inl (dif_neg hu)

theorem toLower_eq_self (h : c.toLower.isLower = false) : c.toLower = c := by
  refine (toLower_cases c).resolve_right fun ⟨hu, hval⟩ => ?_
  simp only [isLower_eq, Bool.and_eq_false_iff, decide_eq_false_iff_not, UInt32.le_iff_toNat_le, ge_iff_le,
    UInt32.reduceToNat] at h
  omega

/-- What is no letter has but one case. -/
theorem eq_of_lower {d : Char} (h : lower c = d) (hd : d.isLower = false) : c = d := by
  subst h
  unfold lower at hd ⊢
  split at hd
  · exact absurd hd (by decide)
  · split at hd
    · exact absurd hd (by decide)
    · rename_i hk hs
      rw [if_neg hk, if_neg hs, toLower_eq_self hd]

theorem lower_of_isBlank (h : Blank.isBlank c = true) : lower c = c := by
  have hk : c ≠ '\u212A' := by
    rintro rfl
    exact absurd h (by decide)
  have hs : c ≠ '\u017F' := by
    rintro rfl
    exact absurd h (by decide)
  rw [lower, if_neg hk, if_neg hs]
  refine (toLower_cases c).resolve_right fun hu => ?_
  simp only [Blank.isBlank, Bool.or_eq_true, Bool.and_eq_true, decide_eq_true_eq, beq_iff_eq, Char.toNat] at h
  omega

/-- The spellings of a keyword. -/
def Spelled (k : Keyword) (words : List (List Char)) : Prop :=
  ∀ cs rest, k.after cs = some rest ↔ ∃ word ∈ words, word <+: lowered cs ∧ cs.drop word.length = rest

/-- The spellings of the keywords, in their order. -/
def spellings : List (List (List Char)) :=
  [["authorization".toList], ["bearer".toList], ["token".toList], ["password".toList],
    ["api_key".toList, "api-key".toList, "apikey".toList], ["secret".toList]]

theorem append_prefix_lowered {u v : List Char} :
    u ++ v <+: lowered cs ↔ u <+: lowered cs ∧ v <+: lowered (cs.drop u.length) := by
  have happend : ∀ l : List Char, u ++ v <+: l ↔ u <+: l ∧ v <+: l.drop u.length := by
    intro l
    constructor
    · rintro ⟨t, rfl⟩
      simp
    · rintro ⟨⟨t, rfl⟩, h⟩
      simpa using h
  rw [happend, lowered, lowered, List.map_drop]

theorem afterApiKey_eq_some : afterApiKey cs = some rest ↔
    ∃ word ∈ ["api_key".toList, "api-key".toList, "apikey".toList],
      word <+: lowered cs ∧ cs.drop word.length = rest := by
  have hkey : ∀ r, afterKeyword "key".toList r = some rest ↔ "key".toList <+: lowered r ∧ r.drop 3 = rest :=
    fun r => afterKeyword_eq_some (by decide)
  have hapi : ∀ r, afterKeyword "api".toList cs = some r ↔ "api".toList <+: lowered cs ∧ cs.drop 3 = r :=
    fun r => afterKeyword_eq_some (by decide)
  have hword : ∀ u : List Char, "api".toList ++ u <+: lowered cs ↔
      "api".toList <+: lowered cs ∧ u <+: lowered (cs.drop 3) := fun u => append_prefix_lowered
  have hdrop : ∀ n, cs.drop (3 + n) = (cs.drop 3).drop n := fun n => (List.drop_drop ..).symm
  simp only [afterApiKey, Option.bind_eq_bind, Option.bind_eq_some_iff, hapi, List.mem_cons, List.not_mem_nil, or_false,
    exists_eq_or_imp, exists_eq_left, and_assoc, exists_and_left, exists_eq_left']
  rw [show "api_key".toList = "api".toList ++ '_' :: "key".toList from rfl,
    show "api-key".toList = "api".toList ++ '-' :: "key".toList from rfl,
    show "apikey".toList = "api".toList ++ "key".toList from rfl, hword, hword, hword,
    show ("api".toList ++ '_' :: "key".toList).length = 3 + 4 from rfl,
    show ("api".toList ++ '-' :: "key".toList).length = 3 + 4 from rfl,
    show ("api".toList ++ "key".toList).length = 3 + 3 from rfl, hdrop 4, hdrop 3, and_assoc, and_assoc, and_assoc,
    ← and_or_left, ← and_or_left]
  refine and_congr_right fun _ => ?_
  cases cs.drop 3 with
  | nil => simp [lowered]
  | cons c r =>
    -- A character between the two parts is no letter, and so the second part does not begin with it.
    have hcons : ∀ d u, d :: u <+: lowered (c :: r) ↔ d = lower c ∧ u <+: lowered r := fun d u => by simp [lowered]
    have hk : "key".toList <+: lowered (c :: r) ↔ 'k' = lower c ∧ "ey".toList <+: lowered r := hcons ..
    have hlow : lower '_' = '_' := by decide
    have hhyphen : lower '-' = '-' := by decide
    by_cases hmark : c = '_' ∨ c = '-'
    · have hif : (c == '_' || c == '-') = true := by simpa using hmark
      simp only [hif, if_true, hkey, hcons, hk]
      rcases hmark with rfl | rfl <;> simp [hlow, hhyphen]
    · have hif : (c == '_' || c == '-') = false := by simpa using hmark
      have hne : ∀ d : Char, d = '_' ∨ d = '-' → d ≠ lower c := by
        rintro d (rfl | rfl) he
        · exact hmark (.inl (eq_of_lower he.symm (by decide)))
        · exact hmark (.inr (eq_of_lower he.symm (by decide)))
      simp only [hif, Bool.false_eq_true, if_false, hkey, hcons, hne '_' (.inl rfl), hne '-' (.inr rfl), false_and,
        false_or]

theorem spelled : List.Forall₂ Spelled keywords spellings := by
  have hword : ∀ word : List Char, (∀ l ∈ word, l.toNat < 128) → ∀ isSeparator isValue,
      Spelled ⟨afterKeyword word, isSeparator, isValue⟩ [word] := by
    intro word hw _ _ cs rest
    simp [afterKeyword_eq_some hw]
  refine .cons ?_ (.cons ?_ (.cons ?_ (.cons ?_ (.cons (fun cs rest => afterApiKey_eq_some) (.cons ?_ .nil)))))
  all_goals exact hword _ (by decide) _ _

theorem spelled_of_getElem? {i : Nat} (hk : keywords[i]? = some k) (hs : spellings[i]? = some words) :
    Spelled k words := by
  have h := spelled
  generalize keywords = ks, spellings = spelt at h hk hs
  induction h generalizing i with
  | nil => simp at hk
  | cons h _ ih =>
    cases i with
    | zero =>
      obtain rfl := Option.some.inj hk
      obtain rfl := Option.some.inj hs
      exact h
    | succ i => exact ih hk hs

/-! Values -/

section
variable {isSeparator isValue : Char → Bool}

/-- After separators a value is read, unless more separators and a value come first. -/
theorem afterSeparated_append {r : List Char} (hs : ∀ c ∈ seps, isSeparator c = true) (hne : seps ≠ [])
    (h : (afterSeparated isSeparator isValue rest).or (afterValue isValue rest) = some r) :
    afterSeparated isSeparator isValue (seps ++ rest) = some r := by
  have hcons : ∀ c cs, isSeparator c = true → afterSeparated isSeparator isValue (c :: cs) =
      (afterSeparated isSeparator isValue cs).or (afterValue isValue cs) := by
    intro c cs hc
    rw [afterSeparated, if_pos hc]
    cases afterSeparated isSeparator isValue cs <;> rfl
  induction seps with
  | nil => exact absurd rfl hne
  | cons c seps ih =>
    obtain ⟨hc, hs⟩ := List.forall_mem_cons.mp hs
    rw [List.cons_append, hcons _ _ hc]
    by_cases he : seps = []
    · rw [he]
      exact h
    · rw [ih hs he]
      rfl

theorem afterValue_eq_nil (hw : ∀ c ∈ w, isValue c = true) (hne : w ≠ []) : afterValue isValue w = some [] := by
  cases w with
  | nil => exact absurd rfl hne
  | cons c w =>
    obtain ⟨hc, hw⟩ := List.forall_mem_cons.mp hw
    rw [afterValue, if_pos hc, List.dropWhile_eq_nil_iff.mpr hw]

/-- What is behind separators and a value is behind the value. -/
theorem exists_afterValue (h : afterSeparated isSeparator isValue cs = some rest) :
    ∃ x, x <:+ cs ∧ afterValue isValue x = some rest := by
  induction cs with
  | nil => cases h
  | cons c cs ih =>
    rw [afterSeparated] at h
    split at h
    · split at h
      · rename_i hr
        obtain ⟨x, hx, hv⟩ := ih (h ▸ hr)
        exact ⟨x, hx.trans (List.suffix_cons ..), hv⟩
      · exact ⟨cs, List.suffix_cons .., h⟩
    · cases h

theorem afterValue_suffix (h : afterValue isValue cs = some rest) : rest <:+ cs := by
  cases cs with
  | nil => cases h
  | cons c cs =>
    simp only [afterValue, Option.ite_none_right_eq_some, Option.some.injEq] at h
    exact h.2 ▸ (List.dropWhile_suffix _).trans (List.suffix_cons ..)

/-- A value that goes on to the end of the text is read to its end. -/
theorem afterSeparated_value (hs : ∀ c ∈ seps, isSeparator c = true) (hne : seps ≠ [])
    (hw : ∀ c ∈ w, isValue c = true) (hwne : w ≠ []) : afterSeparated isSeparator isValue (seps ++ w) = some [] := by
  refine afterSeparated_append hs hne ?_
  cases h : afterSeparated isSeparator isValue w with
  | none => exact afterValue_eq_nil hw hwne
  | some r =>
    obtain ⟨x, hx, hv⟩ := exists_afterValue h
    have hne : x ≠ [] := by
      rintro rfl
      cases hv
    rw [afterValue_eq_nil (fun c hc => hw c (hx.subset hc)) hne] at hv
    exact hv.symm

end

/-! One keyword after another -/

theorem pattern_eq_some {out : List Char} : k.pattern cs = some (out, rest) ↔
    out = mask ∧ ∃ r, k.after cs = some r ∧ afterSeparated k.isSeparator k.isValue r = some rest := by
  constructor
  · intro h
    obtain ⟨r, hr, h⟩ := Option.bind_eq_some_iff.mp h
    obtain ⟨x, hx, h⟩ := Option.bind_eq_some_iff.mp h
    cases h
    exact ⟨rfl, r, hr, hx⟩
  · rintro ⟨rfl, r, hr, hx⟩
    exact Option.bind_eq_some_iff.mpr ⟨r, hr, Option.bind_eq_some_iff.mpr ⟨rest, hx, rfl⟩⟩

/-- No match of a keyword with these spellings begins in a text, whatever stands behind it. -/
def Free (words : List (List Char)) (base : List Char) : Prop :=
  ∀ word ∈ words, ∀ x ∈ base.tails, x ≠ [] → ¬ word <+: x ∧ ¬ x <+: word

instance : Decidable (Free words base) := by
  unfold Free
  infer_instance

theorem Spelled.pass (hk : Spelled k words) (hf : Free words (lowered front)) (rest : List Char) :
    k.pattern.replaceAll (front ++ rest) = front ++ k.pattern.replaceAll rest := by
  refine replaceAll_append fun x hx hne => ?_
  rw [Option.eq_none_iff_forall_ne_some]
  rintro ⟨out, r⟩ hm
  obtain ⟨-, r, hr, -⟩ := pattern_eq_some.mp hm
  obtain ⟨word, hword, hprefix, -⟩ := (hk _ _).mp hr
  obtain ⟨hx₁, hx₂⟩ := hf word hword (lowered x) ((List.mem_tails ..).mpr (hx.map _)) (by simpa [lowered] using hne)
  rw [lowered, List.map_append] at hprefix
  rcases List.prefix_or_prefix_of_prefix hprefix (List.prefix_append ..) with h | h
  · exact hx₁ h
  · exact hx₂ h

theorem Spelled.after_append {key : List Char} (hk : Spelled k words) (hkey : lowered key ∈ words) (rest : List Char) :
    k.after (key ++ rest) = some rest := by
  refine (hk _ _).mpr ⟨lowered key, hkey, ⟨lowered rest, List.map_append.symm⟩, ?_⟩
  rw [lowered, List.length_map, List.drop_left]

/-- The text with the values of some keywords masked. -/
def maskEach (ks : List Keyword) (cs : List Char) : List Char := ks.foldl (fun acc k => k.pattern.replaceAll acc) cs

theorem maskEach_front {ks : List Keyword} {spelt : List (List (List Char))} (hk : List.Forall₂ Spelled ks spelt)
    (hf : ∀ words ∈ spelt, Free words (lowered front)) (rest : List Char) :
    maskEach ks (front ++ rest) = front ++ maskEach ks rest := by
  induction hk generalizing rest with
  | nil => rfl
  | cons hk _ ih =>
    obtain ⟨hw, hf⟩ := List.forall_mem_cons.mp hf
    rw [maskEach, List.foldl_cons, hk.pass hw]
    exact ih hf _

theorem isValue_replaceAll {p : Pattern} (hp : ∀ cs out rest, p cs = some (out, rest) →
    (∃ run behind, cs = run ++ behind ∧ ∃ m, out = run ++ m ∧ IsValue m) ∧ rest <:+ cs) (hw : IsValue w) :
    IsValue (p.replaceAll w) := by
  constructor
  · refine replaceAll_ne_nil (fun cs out rest h => ?_) hw.ne_nil
    obtain ⟨⟨run, _, -, m, rfl, hm⟩, -⟩ := hp cs out rest h
    exact List.append_ne_nil_of_right_ne_nil _ hm.ne_nil
  · refine replaceAll_forall (fun cs out rest h hcs => ?_) hw.plain
    obtain ⟨⟨run, behind, rfl, m, rfl, hm⟩, hrest⟩ := hp cs out rest h
    exact ⟨List.forall_mem_append.mpr ⟨fun c hc => hcs c (List.mem_append_left _ hc), hm.plain⟩,
      fun c hc => hcs c (hrest.subset hc)⟩

theorem isValue_userinfo (hw : IsValue w) : IsValue (userinfo.replaceAll w) := by
  refine isValue_replaceAll (fun cs out rest h => ?_) hw
  unfold userinfo at h
  split at h
  · cases h
  · rename_i c r
    split at h
    · split at h
      · rename_i body hbody
        split at h
        · rename_i x xs behind htake hdrop
          cases h
          have hbehind : rest <:+ body := by
            have hat : '@' :: rest <:+ body := hdrop ▸ List.dropWhile_suffix _
            exact (List.suffix_cons ..).trans hat
          have hbody : body <:+ r.dropWhile isSchemeRest := by
            rw [hbody]
            exact ⟨"://".toList, rfl⟩
          refine ⟨⟨c :: r.takeWhile isSchemeRest, r.dropWhile isSchemeRest, by simp, "://***@".toList, rfl, ?_⟩, ?_⟩
          · exact ⟨by decide, by decide⟩
          · exact ((hbehind.trans hbody).trans (List.dropWhile_suffix _)).trans (List.suffix_cons ..)
        · cases h
      · cases h
    · cases h

theorem Spelled.isValue (hk : Spelled k words) (hw : IsValue w) : IsValue (k.pattern.replaceAll w) := by
  refine isValue_replaceAll (fun cs out rest h => ?_) hw
  obtain ⟨rfl, r, hr, hs⟩ := pattern_eq_some.mp h
  obtain ⟨word, -, -, rfl⟩ := (hk _ _).mp hr
  obtain ⟨x, hx, hv⟩ := exists_afterValue hs
  refine ⟨⟨[], cs, rfl, mask, rfl, ⟨by decide, by decide⟩⟩, ?_⟩
  exact ((afterValue_suffix hv).trans hx).trans (List.drop_suffix ..)

theorem isValue_maskEach {ks : List Keyword} {spelt : List (List (List Char))} (hk : List.Forall₂ Spelled ks spelt)
    (hw : IsValue w) : IsValue (maskEach ks w) := by
  induction hk generalizing w with
  | nil => exact hw
  | cons hk _ ih => exact ih (hk.isValue hw)

end ProxyWatch.Redaction
