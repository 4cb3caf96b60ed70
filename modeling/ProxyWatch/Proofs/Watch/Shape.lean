import ProxyWatch.Proofs.Watch.Alone
import ProxyWatch.Proofs.Watch.Flights

/-! What each step of the program at work changes, and what it leaves as it is. Rounds are told apart by their keys and
sessions by their targets throughout. -/
namespace ProxyWatch.Watch

variable {w w' : Watch} {es : List Endpoint} {dry : Bool} {key : Nat} {r : Round} {run : SessionRun}
  {f : Flight} {fs gs : List Flight}

/-! What a step changes -/

/-- What a probe that lands changes. -/
theorem land_shape (h : w.land? key r = some w') : ∃ f flights store files journal checks,
    Round.landed? w.now r.flights = some (f, flights) ∧
    store.registry.entries.length ≤ w.store.registry.entries.length ∧ w' =
      { w with
        store, files, journal
        rounds := w.rounds.map fun x => if x.1 = key then (key, { r with flights, checks }) else x } := by
  obtain ⟨f, flights, hf, rfl⟩ := land_spec h
  obtain ⟨store, files, journal, hlength, ho⟩ := outcome_shape w r f
  exact ⟨f, flights, store, files, journal, _, hf, hlength, by rw [landed, ho]⟩

theorem length_landed (h : Round.landed? w.now fs = some (f, gs)) : gs.length + 1 = fs.length := by
  induction fs generalizing gs with
  | nil => cases h
  | cons x fs ih =>
    unfold Round.landed? at h
    split at h
    · cases h
      rfl
    · obtain ⟨⟨g, rest⟩, hr, he⟩ := Option.map_eq_some_iff.mp h
      cases he
      exact congrArg (· + 1) (ih hr)

/-- What a session that goes on changes. -/
theorem runStep_shape (h : w.runStep? run = some w') : ∃ run' launches journal, run'.target = run.target ∧
    run'.session.load < run.session.load ∧ w' =
      { w with launches, journal, runs := w.runs.map fun x => if x.target = run.target then run' else x } := by
  obtain ⟨⟨run', trace⟩, hs, rfl⟩ := Option.map_eq_some_iff.mp h
  obtain ⟨htarget, hload, -⟩ := SessionRun.step_counts hs
  exact ⟨run', _, _, htarget, hload, rfl⟩

/-- What the health loop does. -/
inductive LoopStep (w : Watch) : Watch → Prop
  /-- Its round is over. -/
  | ended {l : HealthLoop} {key : Nat} (hl : w.loop = some l) (hr : l.round = some key) (ho : w.isOver key = true) :
      LoopStep w { w.dropRound key with loop := some { l with round := none } }
  /-- A round begins at a tick. -/
  | begun {l : HealthLoop} {w' : Watch} {key : Nat} (hl : w.loop = some l) (hr : l.round = none)
      (ht : l.tick ≤ w.now) (hc : w.startCycle? = some (w', key)) :
      LoopStep w { w' with
        loop := some { tick := HealthLoop.following l.tick w.now w.checking.interval, round := some key } }
  /-- The bound for its probes is no span of time. -/
  | failed {l : HealthLoop} (hl : w.loop = some l) (hr : l.round = none) (ht : l.tick ≤ w.now)
      (hc : w.startCycle? = none) : LoopStep w { w with loop := none }

theorem loopStep_cases (h : w.loopStep? = some w') : LoopStep w w' := by
  unfold loopStep? at h
  split at h
  · cases h
  · rename_i l hl
    split at h
    · rename_i key hr
      split at h
      · rename_i ho
        cases h
        exact .ended hl hr ho
      · cases h
    · rename_i hr
      split at h
      · rename_i ht
        cases h
        split
        · rename_i hc
          exact .begun hl hr ht hc
        · rename_i hc
          exact .failed hl hr ht hc
      · cases h

/-- The loop waits for its round or for its tick. -/
theorem of_loopStep_none (h : w.loopStep? = none) {l : HealthLoop} (hl : w.loop = some l) :
    (∀ key, l.round = some key → w.isOver key = false) ∧ (l.round = none → w.now < l.tick) := by
  simp only [loopStep?, hl] at h
  cases hr : l.round with
  | some key => simpa [hr] using h
  | none => simpa [hr] using h

theorem step_cases (h : w.step? = some w') : (∃ key r, (key, r) ∈ w.rounds ∧ w.land? key r = some w') ∨
    w.loopStep? = some w' ∨ ∃ run ∈ w.runs, w.runStep? run = some w' := by
  simp only [step?, Option.orElse_eq_orElse, Option.orElse_eq_or, Option.or_eq_some_iff] at h
  rcases h with h | ⟨-, h | ⟨-, h⟩⟩
  · obtain ⟨⟨key, r⟩, hr, hl⟩ := List.exists_of_findSome?_eq_some h
    exact .inl ⟨key, r, hr, hl⟩
  · exact .inr (.inl h)
  · exact .inr (.inr (List.exists_of_findSome?_eq_some h))

theorem step_eq_none : w.step? = none ↔ w.probeStep? = none ∧ w.loopStep? = none ∧ w.sessionStep? = none := by
  simp [step?]

theorem step_now (h : w.step? = some w') : w'.now = w.now := by
  rcases step_cases h with ⟨key, r, -, hl⟩ | hl | ⟨run, -, hr⟩
  · obtain ⟨_, _, _, _, _, _, -, -, rfl⟩ := land_shape hl
    rfl
  · cases loopStep_cases hl with
    | ended | failed => rfl
    | begun _ _ _ hc =>
      obtain ⟨_, _, _, _, -, -, -, -, rfl⟩ := startRound_shape hc
      rfl
  · obtain ⟨_, _, _, -, -, rfl⟩ := runStep_shape hr
    rfl

/-! What can be told apart -/

/-- A key is given to one round, and a target has one session. -/
structure Distinct (w : Watch) : Prop where
  keys : (w.rounds.map (·.1)).Nodup
  fresh : ∀ x ∈ w.rounds, x.1 < w.nextKey
  targets : (w.runs.map (·.target)).Nodup

theorem map_replaced {α β : Type} [DecidableEq β] {k : α → β} {x y : α} (xs : List α) (hxy : k y = k x) :
    (xs.map fun z => if k z = k x then y else z).map k = xs.map k := by
  rw [List.map_map]
  refine List.map_congr_left fun z _ => ?_
  by_cases hz : k z = k x
  · simp [hz, hxy]
  · simp [hz]

theorem Distinct.startRound (h : Distinct w) (hs : w.startRound? es dry = some (w', key)) : Distinct w' := by
  obtain ⟨_, _, _, _, -, -, -, -, rfl⟩ := startRound_shape hs
  refine ⟨?_, fun x hx => ?_, h.targets⟩
  · rw [List.map_append]
    refine List.nodup_append.mpr ⟨h.keys, List.nodup_singleton _, fun a ha b hb => ?_⟩
    obtain ⟨x, hx, rfl⟩ := List.mem_map.mp ha
    obtain rfl := List.mem_singleton.mp hb
    exact Nat.ne_of_lt (h.fresh x hx)
  · rcases List.mem_append.mp hx with hx | hx
    · exact Nat.lt_succ_of_lt (h.fresh x hx)
    · obtain rfl := List.mem_singleton.mp hx
      exact Nat.lt_succ_self _

theorem Distinct.land (h : Distinct w) (hl : w.land? key r = some w') : Distinct w' := by
  obtain ⟨_, flights, _, _, _, checks, -, -, rfl⟩ := land_shape hl
  refine ⟨?_, fun x hx => ?_, h.targets⟩
  · have hkeys := map_replaced (k := (·.1)) (x := (key, r)) (y := (key, { r with flights, checks })) w.rounds rfl
    exact hkeys.symm ▸ h.keys
  · obtain ⟨y, hy, rfl⟩ := List.mem_map.mp hx
    by_cases he : y.1 = key
    · simpa [he] using h.fresh y hy
    · simpa [he] using h.fresh y hy

theorem Distinct.dropRound (h : Distinct w) (key : Nat) : Distinct (w.dropRound key) :=
  ⟨h.keys.sublist (List.filter_sublist.map _), fun x hx => h.fresh x (List.mem_filter.mp hx).1, h.targets⟩

theorem Distinct.runStep (h : Distinct w) (hs : w.runStep? run = some w') : Distinct w' := by
  obtain ⟨run', _, _, htarget, -, rfl⟩ := runStep_shape hs
  refine ⟨h.keys, h.fresh, ?_⟩
  rw [map_replaced w.runs htarget]
  exact h.targets

theorem Distinct.loopStep (h : Distinct w) (hs : w.loopStep? = some w') : Distinct w' := by
  cases loopStep_cases hs with
  | ended => exact { h.dropRound _ with }
  | begun _ _ _ hc => exact { h.startRound hc with }
  | failed => exact { h with }

theorem Distinct.step (h : Distinct w) (hs : w.step? = some w') : Distinct w' := by
  rcases step_cases hs with ⟨key, r, -, hl⟩ | hl | ⟨run, -, hr⟩
  · exact h.land hl
  · exact h.loopStep hl
  · exact h.runStep hr

end ProxyWatch.Watch
