import Mathlib.Algebra.GroupWithZero.Nat
import Mathlib.Algebra.Order.BigOperators.Group.List
import Mathlib.Algebra.Order.Group.Nat
import ProxyWatch.Proofs.Watch.Shape

/-! At every instant the program at work comes to rest: each step leaves less to do, and as many are allowed as there
can be. So time passes, from one instant at which something is due to the next. -/
namespace ProxyWatch.Watch

variable {w w' : Watch} {key : Nat} {r : Round} {run : SessionRun}

/-! What is left to do at an instant -/

/-- What the health loop has left to do: to end a round, and to begin one whose probes are those of all endpoints. -/
def loopLoad (w : Watch) : Nat :=
  match w.loop with
  | none => 0
  | some l => (if l.round.isSome then 1 else 0) +
      if l.tick ≤ w.now then w.store.registry.entries.length + 2 else 0

/-- What is left to do if no time passes. -/
def remaining (w : Watch) : Nat :=
  (w.rounds.map (·.2.flights.length)).sum + (w.runs.map (·.session.load)).sum + w.loopLoad

theorem foldl_add {α : Type} (f : α → Nat) (xs : List α) (n : Nat) :
    xs.foldl (fun n x => n + f x) n = n + (xs.map f).sum := by
  induction xs generalizing n with
  | nil => rfl
  | cons x xs ih =>
    rw [List.foldl_cons, ih, List.map_cons, List.sum_cons]
    omega

theorem remaining_lt_load (w : Watch) : w.remaining < w.load := by
  have hloop : w.loopLoad ≤ w.store.registry.entries.length + 3 := by
    unfold loopLoad
    split
    · omega
    · split <;> split <;> omega
  have hload : w.load = (w.rounds.map (·.2.flights.length)).sum + w.store.registry.entries.length + 4 +
      (w.runs.map (·.session.load)).sum := by
    rw [load, foldl_add, foldl_add, Nat.zero_add, Nat.zero_add]
  rw [hload, remaining]
  omega

/-- One of several that can be told apart is replaced by one with less to do. -/
theorem sum_replaced_lt {α β : Type} [DecidableEq β] {k : α → β} {f : α → Nat} {x y : α} {xs : List α}
    (hn : (xs.map k).Nodup) (hx : x ∈ xs) (hlt : f y < f x) :
    ((xs.map fun z => if k z = k x then y else z).map f).sum < (xs.map f).sum := by
  induction xs with
  | nil => cases hx
  | cons z xs ih =>
    obtain ⟨hz, hn⟩ := List.nodup_cons.mp hn
    simp only [List.map_cons, List.sum_cons]
    by_cases hzx : k z = k x
    -- Its key stands nowhere else, so the rest stays as it is.
    · have hzx : z = x := by
        refine ((List.mem_cons.mp hx).resolve_right fun hx => hz ?_).symm
        exact hzx ▸ List.mem_map_of_mem hx
      subst hzx
      have hrest : xs.map (fun w => if k w = k z then y else w) = xs := by
        refine (List.map_congr_left fun w hw => if_neg fun he => hz ?_).trans (List.map_id xs)
        exact he ▸ List.mem_map_of_mem hw
      rw [if_pos rfl, hrest]
      omega
    · have hx : x ∈ xs := (List.mem_cons.mp hx).resolve_left fun he => hzx (he ▸ rfl)
      rw [if_neg hzx]
      exact Nat.add_lt_add_left (ih hn hx) _

/-- Between two ticks there is more time than a tick may be late. -/
def Unhurried (w : Watch) : Prop := HealthLoop.tolerance < w.checking.interval.millisUp

theorem lt_timer (now : Nat) {d : Duration} (h : 0 < d.millisUp) : now < Clock.timer now d := by
  unfold Clock.timer Clock.endOr
  split
  · omega
  · simp only [Clock.day]
    omega

theorem lt_following {tick now : Nat} {period : Duration} (h : HealthLoop.tolerance < period.millisUp)
    (ht : tick ≤ now) : now < HealthLoop.following tick now period := by
  unfold HealthLoop.following
  split
  · exact lt_timer now (Nat.zero_lt_of_lt h)
  · rename_i hlate
    unfold Clock.timer Clock.endOr
    split
    · omega
    · simp only [Clock.day, HealthLoop.tolerance] at hlate ⊢
      omega

theorem remaining_land (h : Distinct w) (hr : (key, r) ∈ w.rounds) (hl : w.land? key r = some w') :
    w'.remaining < w.remaining := by
  obtain ⟨f, flights, store, _, _, checks, hf, hlength, rfl⟩ := land_shape hl
  have hlt : flights.length < r.flights.length := by
    have := length_landed hf
    omega
  have hrounds := sum_replaced_lt (k := (·.1)) (f := (·.2.flights.length)) (y := (key, { r with flights, checks }))
    h.keys hr hlt
  dsimp only at hrounds
  simp only [remaining, loopLoad]
  split
  · omega
  · split <;> split <;> omega

theorem remaining_runStep (h : Distinct w) (hr : run ∈ w.runs) (hs : w.runStep? run = some w') :
    w'.remaining < w.remaining := by
  obtain ⟨run', _, _, -, hload, rfl⟩ := runStep_shape hs
  have hruns := sum_replaced_lt (f := (·.session.load)) h.targets hr hload
  simp only [remaining, loopLoad]
  omega

theorem remaining_loopStep (hi : Unhurried w) (hs : w.loopStep? = some w') : w'.remaining < w.remaining := by
  cases loopStep_cases hs with
  | @ended l key hl hr ho =>
    have hrounds : ((w.dropRound key).rounds.map (·.2.flights.length)).sum ≤
        (w.rounds.map (·.2.flights.length)).sum := (List.filter_sublist.map _).sum_le_sum fun _ _ => Nat.zero_le _
    have hruns : (w.dropRound key).runs = w.runs := rfl
    have hstore : (w.dropRound key).store = w.store := rfl
    have hnow : (w.dropRound key).now = w.now := rfl
    simp only [remaining, loopLoad, hl, hr, hruns, hstore, hnow, Option.isSome_some, Option.isSome_none, if_true,
      Bool.false_eq_true, if_false]
    omega
  | @begun l w₁ key hl hr ht hc =>
    obtain ⟨_, _, _, flights, -, -, hids, -, rfl⟩ := startRound_shape hc
    -- The next tick is ahead, so what was counted for this one pays for the probes that are sent.
    have hlt := lt_following hi ht
    have hprobed : flights.length ≤ w.store.registry.entries.length := by
      rw [← List.length_map (·.endpoint), hids, List.length_map]
      exact List.length_filter_le ..
    simp only [remaining, loopLoad, hl, hr, ht, List.map_append, List.sum_append, List.map_cons, List.map_nil,
      List.sum_cons, List.sum_nil, Option.isSome_some, Option.isSome_none, if_true, Bool.false_eq_true, if_false,
      Nat.not_le.mpr hlt]
    omega
  | @failed l hl hr ht hc =>
    simp only [remaining, loopLoad, hl, hr, ht, if_true]
    omega

theorem remaining_step (h : Distinct w) (hi : Unhurried w) (hs : w.step? = some w') : w'.remaining < w.remaining := by
  rcases step_cases hs with ⟨key, r, hr, hl⟩ | hl | ⟨run, hr, hs⟩
  · exact remaining_land h hr hl
  · exact remaining_loopStep hi hl
  · exact remaining_runStep h hr hs

/-! How time passes -/

/-- The instants at which something falls due. -/
def due (w : Watch) : List Nat :=
  w.rounds.flatMap (·.2.due) ++
    (match w.loop with
    | some { tick, round := none } => [tick]
    | _ => []) ++
    w.runs.flatMap SessionRun.due

theorem next_eq (w : Watch) : w.next? = (w.due.filter (w.now < ·)).min? := rfl

theorem of_next_some {t : Nat} (h : w.next? = some t) : w.now < t ∧ ∀ d ∈ w.due, w.now < d → t ≤ d := by
  rw [next_eq, List.min?_eq_some_iff] at h
  simp only [List.mem_filter, decide_eq_true_eq, and_imp] at h
  exact ⟨h.1.2, h.2⟩

theorem of_next_none (h : w.next? = none) : ∀ d ∈ w.due, ¬ w.now < d := by
  rw [next_eq, List.min?_eq_none_iff, List.filter_eq_nil_iff] at h
  simpa using h

/-- A property that is kept however the program goes on by itself, and keeps it going. -/
structure Lasting (P : Watch → Prop) : Prop where
  distinct : ∀ {w}, P w → Distinct w
  unhurried : ∀ {w}, P w → Unhurried w
  step : ∀ {w w'}, P w → w.step? = some w' → P w'
  pass : ∀ {w} {now : Nat}, P w → w.step? = none → w.now ≤ now → (∀ d ∈ w.due, w.now < d → now ≤ d) →
    P { w with now }

namespace Lasting

variable {P : Watch → Prop} {now last ms : Nat} {done : Watch → Bool}

theorem settleWithin (hP : Lasting P) (h : P w) {n : Nat} (hn : w.remaining < n) :
    P (settleWithin n w) ∧ (Watch.settleWithin n w).step? = none ∧ (Watch.settleWithin n w).now = w.now := by
  induction n generalizing w with
  | zero => exact absurd hn (Nat.not_lt_zero _)
  | succ n ih =>
    unfold Watch.settleWithin
    cases hs : w.step? with
    | none => exact ⟨h, hs, rfl⟩
    | some w' =>
      have hless := remaining_step (hP.distinct h) (hP.unhurried h) hs
      rw [← step_now hs]
      exact ih (hP.step h hs) (by omega)

/-- The program comes to rest. -/
theorem settle (hP : Lasting P) (h : P w) : P w.settle ∧ w.settle.step? = none ∧ w.settle.now = w.now :=
  hP.settleWithin h (remaining_lt_load w)

/-- Time can pass up to what is due next, and no further. -/
theorem pass_next (hP : Lasting P) (h : P w) (hs : w.step? = none) (hle : w.now ≤ now)
    (hnext : ∀ t, w.next? = some t → now ≤ t) : P { w with now } := by
  refine hP.pass h hs hle fun d hd hlt => ?_
  cases hn : w.next? with
  | none => exact absurd hlt (of_next_none hn d hd)
  | some t => exact (hnext t hn).trans ((of_next_some hn).2 d hd hlt)

/-- If nothing is due before it, the last instant is reached. -/
theorem pass_last (hP : Lasting P) (h : P { w with now })
    (hbounds : ∀ t, { w with now }.settle.next? = some t → ¬ (now < t ∧ t ≤ last)) :
    P { { w with now }.settle with now := max now last } := by
  obtain ⟨h₁, hs, hnow⟩ := hP.settle h
  have hnow : { w with now }.settle.now = now := hnow
  refine hP.pass_next h₁ hs (hnow.le.trans (Nat.le_max_left now last)) fun t ht => ?_
  have hlt := (of_next_some ht).1
  have := hbounds t ht
  omega

/-- At the next instant at which something is due it goes on. -/
theorem pass_first (hP : Lasting P) (h : P { w with now }) {t : Nat} (ht : { w with now }.settle.next? = some t) :
    P { { w with now }.settle with now := t } := by
  obtain ⟨h₁, hs, -⟩ := hP.settle h
  exact hP.pass_next h₁ hs (of_next_some ht).1.le fun t' ht' => (Option.some.inj (ht.symm.trans ht')).le

theorem advanceFrom (hP : Lasting P) (h : P { w with now }) :
    P (advanceFrom now last w) ∧ (Watch.advanceFrom now last w).now = max now last := by
  fun_induction Watch.advanceFrom now last w with
  | case1 now w w₁ t hnext hbounds ih =>
    have hlast := ih (hP.pass_first h hnext)
    rw [Nat.max_eq_right hbounds.2] at hlast
    rwa [Nat.max_eq_right (hbounds.1.le.trans hbounds.2)]
  | case2 now w w₁ t hnext hbounds =>
    exact ⟨hP.pass_last h fun t' ht' => Option.some.inj (hnext.symm.trans ht') ▸ hbounds, rfl⟩
  | case3 now w w₁ hnext =>
    exact ⟨hP.pass_last h fun t ht => absurd (hnext.symm.trans ht) (by simp), rfl⟩

/-- As much time passes as is to pass. -/
theorem advance (hP : Lasting P) (h : P w) (ms : Nat) : P (w.advance ms) ∧ (w.advance ms).now = w.now + ms := by
  have hlast : P (Watch.advanceFrom w.now (w.now + ms) w) ∧ _ := hP.advanceFrom h
  rwa [Nat.max_eq_right (Nat.le_add_right _ _)] at hlast

theorem awaitFrom (hP : Lasting P) (h : P { w with now }) : P (awaitFrom done now last w).1 := by
  fun_induction Watch.awaitFrom done now last w with
  | case1 now w w₁ => exact (hP.settle h).1
  | case2 now w w₁ _ t hnext hbounds ih => exact ih (hP.pass_first h hnext)
  | case3 now w w₁ _ t hnext hbounds =>
    exact hP.pass_last h fun t' ht' => Option.some.inj (hnext.symm.trans ht') ▸ hbounds
  | case4 now w w₁ _ hnext => exact hP.pass_last h fun t ht => absurd (hnext.symm.trans ht) (by simp)

theorem await (hP : Lasting P) (h : P w) (done : Watch → Bool) (ms : Nat) : P (w.await done ms).1 := by
  unfold Watch.await
  split
  · exact (hP.settle h).1
  · split
    · exact (hP.settle h).1
    · exact hP.awaitFrom h

end Lasting

end ProxyWatch.Watch
