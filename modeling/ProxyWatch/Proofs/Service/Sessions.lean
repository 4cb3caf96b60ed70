import ProxyWatch.Proofs.Service.Moves
import ProxyWatch.Proofs.Session.Managed

/-! The sessions of a service and what they report, while anything else happens to the service. -/
namespace ProxyWatch

open SessionRun (Managed)

/-- The states into which the sessions of a target went, in order. -/
def Journal.line (j : Journal) (target : String) : List SessionState := j.events.filterMap fun x => x.2.entered? target

/-- The event is about no session. -/
def Event.Healthy (e : Event) : Prop := ∀ target, e.entered? target = none

namespace Watch

/-- No session goes on. -/
structure Aside (w w' : Watch) : Prop where
  runs : w'.runs = w.runs
  launches : w'.launches = w.launches
  captures : w'.journal.captures = w.journal.captures
  line : ∀ target, w'.journal.line target = w.journal.line target
  now : w.now ≤ w'.now

variable {w w' : Watch} {key : Nat} {r : Round} {run : SessionRun} {target : String} {es : List Event}

theorem aside_of_note (hr : w'.runs = w.runs) (hl : w'.launches = w.launches)
    (hc : w'.journal.captures = w.journal.captures) (hn : w.now ≤ w'.now)
    (hj : w'.journal.events = w.journal.events ++ es.map (w.now, ·)) (he : ∀ e ∈ es, e.Healthy) : Aside w w' where
  runs := hr
  launches := hl
  captures := hc
  line target := by
    have hnone : (es.map (w.now, ·)).filterMap (fun x => x.2.entered? target) = [] :=
      List.filterMap_eq_nil_iff.mpr (List.forall_mem_map.mpr fun e h => he e h target)
    rw [Journal.line, hj, List.filterMap_append, hnone, List.append_nil]
    rfl
  now := hn

theorem aside_of_journal (hr : w'.runs = w.runs) (hl : w'.launches = w.launches) (hj : w'.journal = w.journal)
    (hn : w.now ≤ w'.now) : Aside w w' where
  runs := hr
  launches := hl
  captures := by rw [hj]
  line _ := by rw [hj]
  now := hn

theorem healthy_applied (a : Applied) : ∀ e ∈ a.events, e.Healthy := by
  intro e he target
  simp only [Applied.events, List.mem_append, List.mem_ite_nil_right, List.mem_singleton] at he
  rcases he with ⟨-, rfl⟩ | ⟨-, rfl⟩ <;> rfl

theorem healthy_reenable {reg reg' : Registry} {id : String} {e : Endpoint}
    (h : Failover.reenable reg id = .ok (reg', e, es)) : ∀ x ∈ es, x.Healthy := by
  cases hf : reg.find? id with
  | none =>
    rw [Failover.reenable_of_absent hf] at h
    cases h
  | some x =>
    simp only [Failover.reenable, Registry.get_of_find? hf, Registry.applyHealth_of_find? hf, bind, Except.bind] at h
    cases h
    intro y hy target
    split at hy
    · cases hy
    · rw [List.mem_singleton.mp hy]
      rfl

/-- What a probe that lands reports is about no session. -/
theorem aside_outcome (w : Watch) (r : Round) (f : Flight) : Aside w (w.outcome r f).1 := by
  unfold outcome
  split
  · exact aside_of_journal rfl rfl rfl (Nat.le_refl _)
  · unfold applyOutcome
    split
    · rename_i a _
      exact aside_of_note rfl rfl rfl (Nat.le_refl _) rfl (healthy_applied a)
    · exact aside_of_journal rfl rfl rfl (Nat.le_refl _)

theorem aside_land (h : w.land? key r = some w') : Aside w w' := by
  obtain ⟨f, flights, -, rfl⟩ := land_spec h
  exact { aside_outcome w r f with }

theorem aside_startRound {es : List Endpoint} {dry : Bool} (h : w.startRound? es dry = some (w', key)) :
    Aside w w' := by
  obtain ⟨_, _, _, _, -, -, -, -, rfl⟩ := startRound_shape h
  exact ⟨rfl, rfl, rfl, fun _ => rfl, Nat.le_refl _⟩

theorem aside_loopStep (h : w.loopStep? = some w') : Aside w w' := by
  cases loopStep_cases h with
  | ended | failed => exact aside_of_journal rfl rfl rfl (Nat.le_refl _)
  | begun _ _ _ hc => exact { aside_startRound hc with }

/-- What a session that goes on changes: its own place, and its own line. -/
theorem runStep_spec (h : w.runStep? run = some w') : ∃ run' trace,
    run.step (w.launcher w.launches) w.now w.clock w.store.registry.entries = some (run', trace) ∧
    w'.runs = (w.runs.map fun x => if x.target = run.target then run' else x) ∧ w'.now = w.now ∧
    (∀ target, w'.journal.line target = w.journal.line target ++ trace.events.filterMap (Event.entered? target)) := by
  obtain ⟨⟨run', trace⟩, hs, rfl⟩ := Option.map_eq_some_iff.mp h
  refine ⟨run', trace, hs, rfl, rfl, fun target => ?_⟩
  change (w.journal.events ++ trace.events.map (w.now, ·)).filterMap _ = _
  rw [List.filterMap_append, List.filterMap_map]
  rfl

end Watch

namespace Service

variable {config : Config} {s s' t : Service} {w : Watch} {r : SessionRun} {target : String}

/-- Nobody starts anything: a session goes on or is asked to stop, or no session has to do with it. -/
theorem Meanwhile.cases (h : Meanwhile s s') : s.watch.Aside s'.watch ∨
    (∃ target, s'.watch = s.watch.modifySession target Session.stop) ∨
    ∃ r ∈ s.watch.runs, s.watch.runStep? r = some s'.watch := by
  cases h with
  | change c =>
    obtain ⟨_, _, he⟩ := s.change_shape c
    rw [he]
    exact .inl (Watch.aside_of_journal rfl rfl rfl (Nat.le_refl _))
  | @reenable _ _ _ events hr =>
    exact .inl (Watch.aside_of_note rfl rfl rfl (Nat.le_refl _) rfl (Watch.healthy_reenable hr))
  | send hs => exact .inl (Watch.aside_startRound hs)
  | drop | around => exact .inl (Watch.aside_of_journal rfl rfl rfl (Nat.le_refl _))
  | land _ hl => exact .inl (Watch.aside_land hl)
  | loop hs => exact .inl (Watch.aside_loopStep hs)
  | stopLoop =>
    obtain ⟨_, -, he⟩ := s.stopLoop_shape
    rw [he]
    exact .inl (Watch.aside_of_journal rfl rfl rfl (Nat.le_refl _))
  | go hr hs => exact .inr (.inr ⟨_, hr, hs⟩)
  | ask target => exact .inr (.inl ⟨target, rfl⟩)
  | pass hle => exact .inl (Watch.aside_of_journal rfl rfl rfl hle)

/-! Sessions are managed -/

/-- Every session of the service is as sessions are between their steps. -/
def Manages (config : Config) (w : Watch) : Prop := ∀ r ∈ w.runs, Managed config w.now r

theorem manages_ask (h : Manages config w) (target : String) :
    Manages config (w.modifySession target Session.stop) := by
  intro r hr
  obtain ⟨x, hx, rfl⟩ := List.mem_map.mp hr
  split
  · exact (h x hx).stop
  · exact h x hx

theorem Manages.meanwhile (hv : config.validate = .ok ()) (h : Manages config s.watch) (hm : Meanwhile s s') :
    Manages config s'.watch := by
  rcases hm.cases with ha | ⟨target, he⟩ | ⟨r, hr, hg⟩
  · intro r hr
    exact (h r (ha.runs ▸ hr)).pass ha.now
  · rw [he]
    exact manages_ask h target
  · obtain ⟨run', trace, hs, hruns, hnow, -⟩ := Watch.runStep_spec hg
    intro x hx
    rw [hnow]
    obtain ⟨y, hy, rfl⟩ := List.mem_map.mp (hruns ▸ hx)
    split
    · exact (h r hr).step hv hs
    · exact h y hy

theorem Manages.move (hv : config.validate = .ok ()) (hc : s.config = config) (h : Manages config s.watch)
    (hm : Move s s') : Manages config s'.watch := by
  cases hm with
  | other hm => exact h.meanwhile hv hm
  | startLoop =>
    unfold startLoop
    split <;> exact h
  | startSession target =>
    unfold startSession
    split
    · exact h
    · intro r hr
      rcases List.mem_append.mp hr with hr | hr
      · exact h r (List.mem_filter.mp hr).1
      · rw [List.mem_singleton.mp hr, hc]
        exact .fresh config _ target _

theorem Arises.manages (h : Arises config s) : Manages config s.watch := by
  induction h with
  | built hb =>
    intro r hr
    rw [Stage.runs_of_build hb] at hr
    cases hr
  | move h hm ih => exact ih.move h.regular.valid h.regular.config_eq hm

/-! What becomes of one session -/

/-- What becomes of a session in between: nothing, or it is asked to stop, or it goes on. -/
inductive Follows (w w' : Watch) (r : SessionRun) : SessionRun → Prop
  | kept (hl : w'.journal.line r.target = w.journal.line r.target) : Follows w w' r r
  | asked (hl : w'.journal.line r.target = w.journal.line r.target) :
      Follows w w' r { r with session := r.session.stop }
  | went {x : SessionRun} {trace : SessionTrace} (hn : w'.now = w.now)
      (hs : r.step (w.launcher w.launches) w.now w.clock w.store.registry.entries = some (x, trace))
      (hl : w'.journal.line r.target =
        w.journal.line r.target ++ trace.events.filterMap (Event.entered? r.target)) : Follows w w' r x

theorem Follows.target_eq {w w' : Watch} {x : SessionRun} (h : Follows w w' r x) : x.target = r.target := by
  cases h with
  | kept | asked => rfl
  | went _ hs => exact (SessionRun.step_counts hs).1

theorem Meanwhile.follows (h : Meanwhile s s') (hn : (s.watch.runs.map (·.target)).Nodup) (hr : r ∈ s.watch.runs) :
    ∃ x ∈ s'.watch.runs, Follows s.watch s'.watch r x := by
  rcases h.cases with ha | ⟨target, he⟩ | ⟨y, hy, hg⟩
  · exact ⟨r, ha.runs ▸ hr, .kept (ha.line _)⟩
  · rw [he]
    by_cases ht : r.target = target
    · exact ⟨_, List.mem_map.mpr ⟨r, hr, if_pos ht⟩, .asked rfl⟩
    · exact ⟨r, List.mem_map.mpr ⟨r, hr, if_neg ht⟩, .kept rfl⟩
  · obtain ⟨y', trace, hs, hruns, hnow, hline⟩ := Watch.runStep_spec hg
    rw [hruns]
    by_cases ht : r.target = y.target
    · obtain rfl := List.inj_on_of_nodup_map hn hr hy ht
      exact ⟨y', List.mem_map.mpr ⟨r, hr, if_pos rfl⟩, .went hnow hs (hline _)⟩
    · refine ⟨r, List.mem_map.mpr ⟨r, hr, if_neg ht⟩, .kept ?_⟩
      rw [hline, List.filterMap_eq_nil_iff.mpr (SessionRun.entered_of_step hs (Ne.symm ht)), List.append_nil]

theorem Meanwhile.targets_eq (h : Meanwhile s s') :
    s'.watch.runs.map (·.target) = s.watch.runs.map (·.target) := by
  rcases h.cases with ha | ⟨target, he⟩ | ⟨y, -, hg⟩
  · rw [ha.runs]
  · rw [he, targets_ask]
  · obtain ⟨y', trace, hs, hruns, -, -⟩ := Watch.runStep_spec hg
    rw [hruns]
    exact Watch.map_replaced _ (SessionRun.step_counts hs).1

/-- A session that is over stays as it was displayed last. -/
theorem Follows.finished {w w' : Watch} {x : SessionRun} {now : Nat} (h : Follows w w' r x) (hm : Managed config now r)
    (hf : r.isFinished = true) : x.shown = r.shown ∧ w'.journal.line r.target = w.journal.line r.target := by
  cases h with
  | kept hl | asked hl => exact ⟨rfl, hl⟩
  | went _ hs => cases (hm.step_of_finished hf).symm.trans hs

theorem Manages.meanwhiles (h : Manages config s.watch) (hr : s.Regular config) (hm : Meanwhiles s s') :
    Manages config s'.watch := by
  induction hm with
  | refl => exact h
  | tail _ hm ih => exact ih.meanwhile hr.valid hm

/-- What becomes of all sessions. -/
theorem Meanwhile.followed (h : Meanwhile s s') (hn : (s.watch.runs.map (·.target)).Nodup) {y : SessionRun}
    (hy : y ∈ s'.watch.runs) : ∃ x ∈ s.watch.runs, Follows s.watch s'.watch x y := by
  have hn' : (s'.watch.runs.map (·.target)).Nodup := h.targets_eq ▸ hn
  have ht : y.target ∈ s.watch.runs.map (·.target) := h.targets_eq ▸ List.mem_map_of_mem hy
  obtain ⟨x, hx, hxt⟩ := List.mem_map.mp ht
  obtain ⟨y', hy', hfollows⟩ := h.follows hn hx
  obtain rfl := List.inj_on_of_nodup_map hn' hy hy' (hxt.symm.trans hfollows.target_eq.symm)
  exact ⟨x, hx, hfollows⟩

/-! Reports of an end -/

/-- One thing that happens while nobody starts a session of a target. -/
inductive Onward (target : String) (s : Service) : Service → Prop
  | meanwhile {s' : Service} (h : Meanwhile s s') : Onward target s s'
  | startLoop : Onward target s s.startLoop.1
  | startSession {other : String} (hne : other ≠ target) : Onward target s (s.startSession other).1

theorem Onward.move (h : Onward target s s') : Move s s' := by
  cases h with
  | meanwhile h => exact .other h
  | startLoop => exact .startLoop
  | startSession => exact .startSession _

/-- How often the sessions of a target have reported that they were stopped. -/
def stops (w : Watch) (target : String) : Nat := (w.journal.line target).count .stopped

/-- There is a session of the target. If it is not over yet, none was stopped since. -/
def Unstopped (target : String) (before : Nat) (w : Watch) : Prop :=
  ∃ x ∈ w.runs, x.target = target ∧ (x.isFinished = false → stops w target = before)

theorem Unstopped.meanwhile {before : Nat} (h : Unstopped target before s.watch) (hr : s.Regular config)
    (hm : Manages config s.watch) (hs : Meanwhile s s') : Unstopped target before s'.watch := by
  obtain ⟨x, hx, rfl, hcount⟩ := h
  obtain ⟨y, hy, hfollows⟩ := hs.follows hr.distinct.targets hx
  refine ⟨y, hy, hfollows.target_eq, fun hf => ?_⟩
  have hx' : x.isFinished = false := by
    cases hxf : x.isFinished with
    | false => rfl
    | true =>
      have hshown := (hfollows.finished (hm x hx) hxf).1
      rw [SessionRun.isFinished, hshown] at hf
      cases hxf.symm.trans hf
  rw [← hcount hx']
  cases hfollows with
  | kept hl | asked hl => rw [stops, hl, stops]
  | went _ hstep hl =>
    have hphase : y.session.phase ≠ .over := fun ho => by
      rw [((hm x hx).step hr.valid hstep).isFinished_iff.mpr ho] at hf
      cases hf
    have hnone : SessionState.stopped ∉ (_ : List Event).filterMap (Event.entered? x.target) := fun hmem => by
      obtain ⟨e, he, hentered⟩ := List.mem_filterMap.mp hmem
      exact SessionRun.entered_ne_stopped hstep hphase e he hentered
    rw [stops, hl, List.count_append, List.count_eq_zero.mpr hnone]
    rfl

theorem Unstopped.onward {before : Nat} (h : Unstopped target before s.watch) (ha : Arises config s)
    (hs : Onward target s s') : Unstopped target before s'.watch := by
  cases hs with
  | meanwhile hs => exact h.meanwhile ha.regular ha.manages hs
  | startLoop =>
    unfold startLoop
    split <;> exact h
  | startSession hne =>
    unfold startSession
    split
    · exact h
    · obtain ⟨x, hx, ht, hcount⟩ := h
      refine ⟨x, List.mem_append_left _ (List.mem_filter.mpr ⟨hx, ?_⟩), ht, hcount⟩
      simpa [ht] using Ne.symm hne

/-- A session that is not over has not reported that it is stopped, since it is there. -/
theorem stops_eq (ha : Arises config s) (hs : Relation.ReflTransGen (Onward target) s t)
    (hx : ∃ x ∈ s.watch.runs, x.target = target) (hr : r ∈ t.watch.runs) (ht : r.target = target)
    (hf : r.isFinished = false) : stops t.watch target = stops s.watch target := by
  have hkept : Arises config t ∧ Unstopped target (stops s.watch target) t.watch := by
    clear hr
    induction hs with
    | refl =>
      obtain ⟨x, hx, ht⟩ := hx
      exact ⟨ha, x, hx, ht, fun _ => rfl⟩
    | tail _ hs ih => exact ⟨ih.1.move hs.move, ih.2.onward ih.1 hs⟩
  obtain ⟨ha', x, hx', hxt, hcount⟩ := hkept
  obtain rfl := List.inj_on_of_nodup_map ha'.regular.distinct.targets hr hx' (ht.trans hxt.symm)
  exact hcount hf

end Service
end ProxyWatch
