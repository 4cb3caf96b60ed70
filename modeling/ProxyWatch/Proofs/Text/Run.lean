import Mathlib.Data.List.TakeDrop
import Mathlib.Data.List.TakeWhile

/-! Runs of characters of one kind at the front of a text. -/
namespace ProxyWatch

/-- What is said of the characters of a text is decided along the text, not over all characters that there are. -/
instance (priority := high) decidableForallMem {P : Char → Prop} [DecidablePred P] (cs : List Char) :
    Decidable (∀ c ∈ cs, P c) :=
  List.decidableBAll P cs

variable {p : Char → Bool} {run cs rest : List Char} {c : Char}

theorem takeWhile_append_stop (h : ∀ x ∈ run, p x = true) (hc : p c = false) :
    (run ++ c :: rest).takeWhile p = run := by
  rw [List.takeWhile_append_of_pos h, List.takeWhile_cons_of_neg (by simp [hc]), List.append_nil]

theorem dropWhile_append_stop (h : ∀ x ∈ run, p x = true) (hc : p c = false) :
    (run ++ c :: rest).dropWhile p = c :: rest := by
  rw [List.dropWhile_append_of_pos h, List.dropWhile_cons_of_neg (by simp [hc])]

/-- A text consists of characters of a kind, or has a first one of another kind. -/
theorem forall_or_exists_stop (p : Char → Bool) (cs : List Char) : (∀ x ∈ cs, p x = true) ∨
    ∃ run c rest, cs = run ++ c :: rest ∧ (∀ x ∈ run, p x = true) ∧ p c = false := by
  induction cs with
  | nil => simp
  | cons c cs ih =>
    cases hc : p c with
    | false => exact .inr ⟨[], c, cs, rfl, by simp, hc⟩
    | true =>
      rcases ih with h | ⟨run, d, rest, rfl, hrun, hd⟩
      · exact .inl (List.forall_mem_cons.mpr ⟨hc, h⟩)
      · exact .inr ⟨c :: run, d, rest, rfl, List.forall_mem_cons.mpr ⟨hc, hrun⟩, hd⟩

/-- A run does not go into a text that starts with another character. -/
theorem takeWhile_append_of_head (cs : List Char) (h : ∀ c ∈ rest.head?, p c = false) :
    (cs ++ rest).takeWhile p = cs.takeWhile p := by
  rcases forall_or_exists_stop p cs with hall | ⟨run, c, more, rfl, hrun, hc⟩
  · have hnone : rest.takeWhile p = [] := by
      cases rest with
      | nil => rfl
      | cons c rest => simp [h c rfl]
    rw [List.takeWhile_append_of_pos hall, hnone, List.takeWhile_eq_self_iff.2 hall, List.append_nil]
  · rw [List.append_assoc, List.cons_append, takeWhile_append_stop hrun hc, takeWhile_append_stop hrun hc]

theorem dropWhile_append_of_head (cs : List Char) (h : ∀ c ∈ rest.head?, p c = false) :
    (cs ++ rest).dropWhile p = cs.dropWhile p ++ rest := by
  have hall : (cs ++ rest).takeWhile p ++ (cs ++ rest).dropWhile p = cs ++ rest := List.takeWhile_append_dropWhile
  have hfront : cs.takeWhile p ++ cs.dropWhile p = cs := List.takeWhile_append_dropWhile
  rw [takeWhile_append_of_head cs h] at hall
  rw [← List.append_right_inj (cs.takeWhile p), hall, ← List.append_assoc, hfront]

theorem span_append_of_head (cs : List Char) (h : ∀ c ∈ rest.head?, p c = false) :
    (cs ++ rest).span p = (cs.takeWhile p, cs.dropWhile p ++ rest) := by
  rw [List.span_eq_takeWhile_dropWhile, takeWhile_append_of_head cs h, dropWhile_append_of_head cs h]

end ProxyWatch
