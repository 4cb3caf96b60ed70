import ProxyWatch.Text.Pattern

/-! Replacing the matches of a pattern. What stands in front of the first match is kept, and the search goes on behind
each match as if nothing had been there before. -/
namespace ProxyWatch.Pattern

variable {p : Pattern} {c : Char} {cs out rest front : List Char}

theorem replaceAll_nil : replaceAll p [] = [] := by
  rw [replaceAll]

theorem replaceAll_of_none (h : p (c :: cs) = none) : replaceAll p (c :: cs) = c :: replaceAll p cs := by
  rw [replaceAll, h]

theorem replaceAll_of_some (h : p (c :: cs) = some (out, rest)) (hl : rest.length ≤ cs.length) :
    replaceAll p (c :: cs) = out ++ replaceAll p rest := by
  rw [replaceAll, h]
  exact if_pos hl

/-- A text in which no match begins stays. -/
theorem replaceAll_append (h : ∀ x, x <:+ front → x ≠ [] → p (x ++ rest) = none) :
    replaceAll p (front ++ rest) = front ++ replaceAll p rest := by
  induction front with
  | nil => rfl
  | cons c front ih =>
    have hc : p (c :: (front ++ rest)) = none := h (c :: front) (List.suffix_refl _) (List.cons_ne_nil _ _)
    rw [List.cons_append, replaceAll_of_none hc, ih fun x hx => h x (hx.trans (List.suffix_cons ..))]
    rfl

/-- What holds of all characters of a text and of what is put into it holds of all characters of the result. -/
theorem replaceAll_forall {P : Char → Prop}
    (hp : ∀ cs out rest, p cs = some (out, rest) → (∀ c ∈ cs, P c) → (∀ c ∈ out, P c) ∧ ∀ c ∈ rest, P c)
    (h : ∀ c ∈ cs, P c) : ∀ c ∈ replaceAll p cs, P c := by
  fun_induction replaceAll p cs with
  | case1 => simp
  | case2 c cs out rest hm _ ih =>
    obtain ⟨hout, hrest⟩ := hp _ _ _ hm h
    exact List.forall_mem_append.mpr ⟨hout, ih hrest⟩
  | case3 c cs out rest hm _ ih | case4 c cs hm ih =>
    obtain ⟨hc, hcs⟩ := List.forall_mem_cons.mp h
    exact List.forall_mem_cons.mpr ⟨hc, ih hcs⟩

theorem replaceAll_ne_nil (hp : ∀ cs out rest, p cs = some (out, rest) → out ≠ []) (h : cs ≠ []) :
    replaceAll p cs ≠ [] := by
  fun_cases replaceAll p cs with
  | case1 => exact absurd rfl h
  | case2 c cs out rest hm => exact List.append_ne_nil_of_left_ne_nil (hp _ _ _ hm) _
  | case3 c cs out rest hm | case4 c cs hm => exact List.cons_ne_nil _ _

end ProxyWatch.Pattern
