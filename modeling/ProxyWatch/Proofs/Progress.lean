import Mathlib.Algebra.Order.BigOperators.Group.Finset
import Mathlib.Logic.Relation

/-! Several parties at work, each in a stage of its own. If as long as they aren't done one of them can come nearer to
its end, they can all be brought to an end. -/
namespace ProxyWatch

section
variable {n : Nat} {Scene Stage : Type} {stage : Scene → Fin n → Stage} {rank : Stage → Nat} {s s' : Scene}

theorem sum_rank_lt {i : Fin n} {x : Stage} (hs : stage s' = Function.update (stage s) i x)
    (hx : rank x < rank (stage s i)) : ∑ j, rank (stage s' j) < ∑ j, rank (stage s j) := by
  refine Finset.sum_lt_sum (fun j _ => ?_) ⟨i, Finset.mem_univ i, by simpa [hs] using hx⟩
  by_cases hj : j = i
  · subst hj
    simpa [hs] using hx.le
  · simp [hs, hj]

theorem exists_done {Step : Scene → Scene → Prop} {P Done : Scene → Prop} (stage : Scene → Fin n → Stage)
    (rank : Stage → Nat) (hkept : ∀ s s', P s → Step s s' → P s')
    (hstep : ∀ s, P s → ¬ Done s → ∃ s' i x, Step s s' ∧ stage s' = Function.update (stage s) i x ∧
      rank x < rank (stage s i)) (h : P s) : ∃ t, Relation.ReflTransGen Step s t ∧ Done t := by
  induction hk : ∑ j, rank (stage s j) using Nat.strong_induction_on generalizing s with
  | _ k ih =>
    by_cases hd : Done s
    · exact ⟨s, .refl, hd⟩
    · obtain ⟨s', i, x, hs, he, hx⟩ := hstep s h hd
      obtain ⟨t, ht, htd⟩ := ih _ (hk ▸ sum_rank_lt he hx) (hkept s s' h hs) rfl
      exact ⟨t, .head hs ht, htd⟩

end

end ProxyWatch
