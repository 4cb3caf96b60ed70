import Mathlib.Logic.Relation
import ProxyWatch.Proofs.Registry.Lookup
import ProxyWatch.Watch

/-! What goes on by itself in the program at work: time passes, probes are sent and land, sessions go on. -/
namespace ProxyWatch.Watch

/-- One thing that happens without being asked for. -/
inductive Stir (w : Watch) : Watch → Prop
  /-- Time passes. -/
  | pass (now : Nat) : Stir w { w with now := now }
  /-- A round starts; unless it is dry, it probes stored endpoints. -/
  | send {w' : Watch} {es : List Endpoint} {dry : Bool} {key : Nat}
      (h : w.startRound? es dry = some (w', key))
      (hs : dry = false → ∀ e ∈ es, w.store.registry.find? e.id = some e) : Stir w w'
  /-- A probe lands. -/
  | land {w' : Watch} {key : Nat} {r : Round} (hr : (key, r) ∈ w.rounds)
      (h : w.land? key r = some w') : Stir w w'
  /-- A round is forgotten. -/
  | drop (key : Nat) : Stir w (w.dropRound key)
  /-- The health loop goes on, begins or ends. -/
  | loop (l : Option HealthLoop) : Stir w { w with loop := l }
  /-- A session goes on. -/
  | go {w' : Watch} {r : SessionRun} (hr : r ∈ w.runs) (h : w.runStep? r = some w') : Stir w w'

/-- Any number of such things. -/
abbrev Stirs : Watch → Watch → Prop := Relation.ReflTransGen Stir

variable {w w' : Watch} {key : Nat} {r : Round}

theorem startCycle_stir (h : w.startCycle? = some (w', key)) : Stir w w' := by
  refine .send h fun _ e he => ?_
  exact Registry.find?_of_mem (List.mem_filter.mp he).1

theorem probeStep_stir (h : w.probeStep? = some w') : Stir w w' := by
  obtain ⟨⟨key, r⟩, hr, hl⟩ := List.exists_of_findSome?_eq_some h
  exact .land hr hl

theorem loopStep_stirs (h : w.loopStep? = some w') : Stirs w w' := by
  unfold loopStep? at h
  split at h
  · cases h
  · rename_i l _
    split at h
    · rename_i key _
      split at h
      · cases h
        exact .tail (.single (.drop key)) (.loop _)
      · cases h
    · split at h
      · cases h
        cases hc : w.startCycle? with
        | none => exact .single (.loop _)
        | some s => exact .tail (.single (startCycle_stir hc)) (.loop _)
      · cases h

theorem sessionStep_stir (h : w.sessionStep? = some w') : Stir w w' := by
  obtain ⟨r, hr, hl⟩ := List.exists_of_findSome?_eq_some h
  exact .go hr hl

theorem step_stirs (h : w.step? = some w') : Stirs w w' := by
  simp only [step?, Option.orElse_eq_orElse, Option.orElse_eq_or, Option.or_eq_some_iff] at h
  rcases h with h | ⟨_, h⟩
  · exact .single (probeStep_stir h)
  · rcases h with h | ⟨_, h⟩
    · exact loopStep_stirs h
    · exact .single (sessionStep_stir h)

/-! What is run consists of such things -/

theorem settleWithin_stirs (n : Nat) (w : Watch) : Stirs w (settleWithin n w) := by
  induction n generalizing w with
  | zero => exact .refl
  | succ n ih =>
    unfold settleWithin
    split
    · rename_i w' hs
      exact (step_stirs hs).trans (ih w')
    · exact .refl

theorem settle_stirs (w : Watch) : Stirs w w.settle := settleWithin_stirs _ w

theorem stirs_now (now : Nat) (w : Watch) : Stirs w { w with now := now } := .single (.pass now)

theorem advanceFrom_stirs (now last : Nat) (w : Watch) : Stirs w (advanceFrom now last w) := by
  fun_induction advanceFrom now last w with
  | case1 now w w₁ t _ _ ih => exact ((stirs_now now w).trans (settle_stirs _)).trans ih
  | case2 now w w₁ | case3 now w w₁ =>
    exact ((stirs_now now w).trans (settle_stirs _)).trans (stirs_now _ w₁)

theorem advance_stirs (w : Watch) (ms : Nat) : Stirs w (w.advance ms) := advanceFrom_stirs ..

theorem awaitFrom_stirs (done : Watch → Bool) (now last : Nat) (w : Watch) :
    Stirs w (awaitFrom done now last w).1 := by
  fun_induction awaitFrom done now last w with
  | case1 now w w₁ => exact (stirs_now now w).trans (settle_stirs _)
  | case2 now w w₁ _ t _ _ ih => exact ((stirs_now now w).trans (settle_stirs _)).trans ih
  | case3 now w w₁ | case4 now w w₁ =>
    exact ((stirs_now now w).trans (settle_stirs _)).trans (stirs_now _ w₁)

theorem await_stirs (w : Watch) (done : Watch → Bool) (ms : Nat) : Stirs w (w.await done ms).1 := by
  unfold await
  split
  · exact settle_stirs w
  · split
    · exact settle_stirs w
    · exact awaitFrom_stirs ..

theorem finishRound_stirs (w : Watch) (key : Nat) : Stirs w (w.finishRound key).1 := by
  have h := await_stirs w (·.isOver key) horizon
  exact h.tail (.drop key)

theorem awaitOutcome_stirs (w : Watch) (target : String) (ms : Nat) : Stirs w (w.awaitOutcome target ms).1 :=
  await_stirs w (fun w => (w.outcome? target).isSome) ms

end ProxyWatch.Watch
