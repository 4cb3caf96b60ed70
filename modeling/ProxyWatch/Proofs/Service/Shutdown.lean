import ProxyWatch.Proofs.Service.Closing

/-! What the shutdown of a service comes to: whatever goes on meanwhile, once the call has returned all sessions have
ended, the loop has, and neither does anything any more. -/
namespace ProxyWatch

open SessionRun (Managed)
open Service (Meanwhile Manages Regular Arises Onward allOver stops)
open Watch (Fit Flow Flows Distinct Coming)

namespace Closing

variable {config : Config} {s s' t u : Service} {w : Watch} {c c' : Closing} {r x : SessionRun}
  {done : Watch → Bool}

/-! What stays true -/

/-- Since a state in which all sessions had ended, none has done anything. -/
structure Silent (u s : Service) : Prop where
  ended : ∀ x ∈ s.watch.runs, x.isFinished = true
  captures : s.watch.journal.captures = u.watch.journal.captures
  launches : s.watch.launches = u.watch.launches
  line : ∀ target, s.watch.journal.line target = u.watch.journal.line target

/-- What holds of a call of `shutdown` at any time. -/
structure Kept (config : Config) (s : Service) (c : Closing) : Prop where
  regular : c.service.Regular config
  manages : Manages config c.service.watch
  cycles : ∀ key ∈ c.cycles, LoopKey key c.service.watch
  targets : c.service.watch.runs.map (·.target) = s.watch.runs.map (·.target)
  /-- Sessions that were over when the call was made are as they were displayed. -/
  earlier : ∀ r ∈ s.watch.runs, r.isFinished = true →
    ∃ x ∈ c.service.watch.runs, x.target = r.target ∧ x.shown = r.shown
  collected : ∀ t, c.collected = some t → Arises config t ∧ Collected config t c.service.watch
  returned : ∀ u, c.returned = some u → (∃ t, c.collected = some t) ∧ Silent u c.service
  arises : Arises config c.service

theorem Silent.meanwhile (h : Silent u s) (hm : Manages config s.watch) (hs : Meanwhile s s') : Silent u s' := by
  rcases hs.cases with ha | ⟨target, he⟩ | ⟨r, hr, hg⟩
  · exact ⟨fun x hx => h.ended x (ha.runs ▸ hx), ha.captures.trans h.captures, ha.launches.trans h.launches,
      fun target => (ha.line target).trans (h.line target)⟩
  · refine ⟨fun x hx => ?_, by rw [he]; exact h.captures, by rw [he]; exact h.launches, by rw [he]; exact h.line⟩
    rw [he] at hx
    obtain ⟨y, hy, rfl⟩ := List.mem_map.mp hx
    split
    · exact h.ended y hy
    · exact h.ended y hy
  · obtain ⟨_, _, hstep, -⟩ := Watch.runStep_spec hg
    cases ((hm r hr).step_of_finished (h.ended r hr)).symm.trans hstep

theorem Kept.goesOn (h : Kept config s c) (hm : Meanwhile c.service s') : Kept config s (c.goesOn s') where
  regular := h.regular.meanwhile hm
  manages := h.manages.meanwhile h.regular.valid hm
  cycles := by
    refine List.forall_mem_append.mpr ⟨fun key hk => ?_, fun key hk => (h.cycles key hk).meanwhile hm⟩
    have hcycle : s'.watch.cycle? = some key := Option.mem_toList.mp hk
    exact ⟨(h.regular.meanwhile hm).cycle key hcycle, .inl hcycle⟩
  targets := hm.targets_eq.trans h.targets
  earlier r hr hf := by
    obtain ⟨x, hx, ht, hs⟩ := h.earlier r hr hf
    obtain ⟨y, hy, hfollows⟩ := hm.follows h.regular.distinct.targets hx
    have hxf : x.isFinished = true := by
      rw [SessionRun.isFinished, hs]
      exact hf
    exact ⟨y, hy, hfollows.target_eq.trans ht, (hfollows.finished (h.manages x hx) hxf).1.trans hs⟩
  collected t ht := ⟨(h.collected t ht).1, (h.collected t ht).2.meanwhile h.regular hm⟩
  returned u hu := ⟨(h.returned u hu).1, (h.returned u hu).2.meanwhile h.manages hm⟩
  arises := h.arises.move (.other hm)

/-- As `Kept.goesOn`, for any number of things that happen before the call does anything more. -/
theorem Kept.goesOns (h : Kept config s c) (hm : Service.Meanwhiles c.service s') : Kept config s (c.goesOn s') := by
  induction hm with
  | refl =>
    refine { h with cycles := List.forall_mem_append.mpr ⟨fun key hk => ?_, h.cycles⟩ }
    have hcycle : c.service.watch.cycle? = some key := Option.mem_toList.mp hk
    exact ⟨h.regular.cycle key hcycle, .inl hcycle⟩
  | tail _ hm ih =>
    have hnext := ih.goesOn hm
    refine { hnext with cycles := List.forall_mem_append.mpr ⟨fun key hk => ?_, fun key hk => ?_⟩ }
    · exact hnext.cycles key (List.mem_append_left _ hk)
    · exact hnext.cycles key (List.mem_append_right _ (List.mem_append_right _ hk))

theorem kept_ofService (h : Arises config s) : Kept config s (ofService s) where
  regular := h.regular
  manages := h.manages
  cycles key hk := by
    have hcycle : s.watch.cycle? = some key := Option.mem_toList.mp hk
    exact ⟨h.regular.cycle key hcycle, .inl hcycle⟩
  targets := rfl
  earlier r hr _ := ⟨r, hr, rfl, rfl⟩
  collected t ht := by cases ht
  returned u hu := by cases hu
  arises := h

theorem Kept.step (h : Kept config s c) (hs : Step c c') : Kept config s c' := by
  cases hs with
  | meanwhile hm => exact h.goesOn hm
  | endLoop => exact h.goesOn .stopLoop
  | collect hc hl =>
    have hasked := h.goesOns (c.service.ask_meanwhiles c.service.live)
    refine { hasked with
      collected := fun t ht => Option.some.inj ht ▸ ⟨h.arises, collected_ask h.regular h.manages hl⟩
      returned := fun u hu => ?_ }
    obtain ⟨⟨t, ht⟩, -⟩ := h.returned u hu
    cases hc.symm.trans ht
  | @leave t hc _ ho =>
    refine { h with returned := fun u hu => ⟨⟨t, hc⟩, ?_⟩ }
    obtain rfl := Option.some.inj hu
    exact ⟨(h.collected t hc).2.allOver_iff.mp ho, rfl, rfl, fun _ => rfl⟩

theorem kept_of_steps (h : Arises config s) (hs : Steps (ofService s) c) : Kept config s c := by
  induction hs with
  | refl => exact kept_ofService h
  | tail _ hs ih => exact ih.step hs

theorem Prompts.steps (h : Prompts c c') : Steps c c' := Relation.ReflTransGen.mono (fun _ _ => And.left) _ _ h

/-! When the call returns -/

/-- How much time has passed since the call. -/
structure OnTime (config : Config) (start : Nat) (c : Closing) : Prop where
  before : c.collected = none → c.service.watch.now = start
  waiting : c.collected ≠ none → c.returned = none → Timely config start c.service.watch
  after : ∀ u, c.returned = some u → u.watch.now ≤ start + config.graceMs

theorem OnTime.goesOn {start : Nat} (h : OnTime config start c) (hk : Kept config s c) (hm : Meanwhile c.service s')
    (hidle : c.returned = none → c.service.watch.now < s'.watch.now → Idle c s'.watch.now) :
    OnTime config start (c.goesOn s') where
  before hc := by
    have hr : c.returned = none := Option.eq_none_iff_forall_ne_some.mpr fun u hu => by
      obtain ⟨⟨t, ht⟩, -⟩ := hk.returned u hu
      cases ht.symm.trans hc
    rcases (now_le_meanwhile hm).eq_or_lt with hnow | hlt
    · exact hnow.symm.trans (h.before hc)
    · obtain ⟨t, ht, -⟩ := (hidle hr hlt).waits
      cases ht.symm.trans hc
  waiting hc hr := by
    obtain ⟨t, ht⟩ := Option.ne_none_iff_exists'.mp hc
    refine (h.waiting hc hr).meanwhile (hk.collected t ht).2 hk.regular hm fun hlt => ?_
    obtain ⟨⟨t', ht', hover⟩, hrest, hdue⟩ := hidle hr hlt
    obtain rfl := Option.some.inj (ht.symm.trans ht')
    exact ⟨hover, hrest, hdue⟩
  after := h.after

theorem OnTime.step {start : Nat} (h : OnTime config start c) (hk : Kept config s c) (hp : Prompt c c') :
    OnTime config start c' := by
  obtain ⟨hs, hidle⟩ := hp
  cases hs with
  | meanwhile hm => exact h.goesOn hk hm hidle
  | endLoop => exact h.goesOn hk .stopLoop hidle
  | collect hc =>
    refine ⟨nofun, fun _ _ => .inl ?_, fun u hu => ?_⟩
    · rw [ask_eq]
      exact h.before hc
    · obtain ⟨⟨t, ht⟩, -⟩ := hk.returned u hu
      cases hc.symm.trans ht
  | leave hc hr =>
    refine ⟨h.before, nofun, fun u hu => ?_⟩
    obtain rfl := Option.some.inj hu
    rcases h.waiting (by simp [hc]) hr with hnow | ⟨hle, -⟩
    · exact hnow.le.trans (Nat.le_add_right _ _)
    · exact hle

theorem onTime_of_prompts (h : Arises config s) (hp : Prompts (ofService s) c) : OnTime config s.watch.now c := by
  induction hp with
  | refl => exact ⟨fun _ => rfl, fun hc => absurd rfl hc, fun u hu => by cases hu⟩
  | tail hp hs ih => exact ih.step (kept_of_steps h (Prompts.steps hp)) hs

/-! That the call returns -/

/-- Time passes only at rest, and at most up to what falls due for a session. -/
theorem of_flow_lt {w' : Watch} (h : Flow done w w') (hlt : w.now < w'.now) : done w = false ∧ w.sessionStep? = none ∧
    ∀ r ∈ w.runs, ∀ d ∈ r.due, w.now < d → w'.now ≤ d := by
  cases h with
  | step hs => exact absurd (Watch.step_now hs) hlt.ne'
  | pass hs hn _ hdue =>
    exact ⟨hn, (Watch.step_eq_none.mp hs).2.2, fun r hr d hd =>
      hdue d (List.mem_append_right _ (List.mem_flatMap.mpr ⟨r, hr, hd⟩))⟩

/-- The program goes on by itself, while the call has nothing to do. -/
theorem exists_prompts (hf : Flows done c.service.watch w)
    (hd : ∀ w, done w = false → ∃ t, c.collected = some t ∧ allOver t.live w = false) :
    ∃ c', Prompts c c' ∧ c'.service = { c.service with watch := w } ∧ c'.collected = c.collected ∧
      c'.returned = c.returned := by
  induction hf with
  | refl => exact ⟨c, .refl, rfl, rfl, rfl⟩
  | @tail b w _ hf ih =>
    obtain ⟨c', hp, hservice, hcollected, hreturned⟩ := ih
    have hb : c'.service.watch = b := by rw [hservice]
    rw [← hb] at hf
    refine ⟨c'.goesOn { c'.service with watch := w }, hp.tail ⟨.meanwhile (Service.flow_meanwhile hf), fun _ hlt => ?_⟩,
      ?_, hcollected, hreturned⟩
    · obtain ⟨hn, hrest, hdue⟩ := of_flow_lt hf hlt
      obtain ⟨t, ht, hover⟩ := hd _ hn
      exact ⟨⟨t, hcollected.trans ht, hover⟩, hrest, hdue⟩
    · change { c'.service with watch := w } = _
      rw [hservice]

/-- The call waits for sessions that are all asked to stop. -/
structure Waiting (config : Config) (t : Service) (start : Nat) (w : Watch) : Prop where
  regular : Regular config { t with watch := w }
  collected : Collected config t w
  timely : Timely config start w

/-- Some session comes to its end in the grace period, and once all have ended they stay so. -/
theorem waiting_coming (config : Config) (t : Service) (start : Nat) :
    Coming (Waiting config t start) (allOver t.live) (start + config.graceMs) where
  fit h := h.collected.fit
  flow {w _} h hf := by
    have hm := Service.flow_meanwhile (s := { t with watch := w }) hf
    exact ⟨h.regular.meanwhile hm, h.collected.meanwhile h.regular hm,
      h.timely.meanwhile h.collected h.regular hm (of_flow_lt hf)⟩
  due h hs hn := by
    obtain ⟨x, hx, hf⟩ := h.collected.exists_unfinished hn
    obtain ⟨d, -, hlt, hmem, hle⟩ := h.timely.exists_ending h.collected (Watch.step_eq_none.mp hs).2.2 hx hf
    exact ⟨d, List.mem_append_right _ (List.mem_flatMap.mpr ⟨x, hx, hmem⟩), hlt, hle⟩
  lasts {w _} h hd hs := by
    have hf : Flow (allOver t.live) w _ := .step hs
    have hm := Service.flow_meanwhile (s := { t with watch := w }) hf
    have hover := h.collected.allOver_iff.mp hd
    have hsilent : Silent { t with watch := w } { t with watch := w } := ⟨hover, rfl, rfl, fun _ => rfl⟩
    exact (h.collected.meanwhile h.regular hm).allOver_iff.mpr (hsilent.meanwhile h.collected.manages hm).ended

/-- A call that waits long enough returns. -/
theorem Kept.exists_leave {ms : Nat} (h : Kept config s c) (hc : c.collected = some t) (hr : c.returned = none)
    (hms : config.graceMs ≤ ms) (hpos : 0 < ms) :
    ∃ c', Prompts c c' ∧ c'.service = { c.service with watch := (c.service.watch.await (allOver t.live) ms).1 } ∧
      c'.returned = some c'.service := by
  have hcollected := (h.collected t hc).2
  have hregular : Regular config { t with watch := c.service.watch } :=
    { h.regular with config_eq := (h.collected t hc).1.regular.config_eq }
  have hcoming := (waiting_coming config t c.service.watch.now).mono (Nat.add_le_add_left hms _)
  obtain ⟨-, hover⟩ := hcoming.await ⟨hregular, hcollected, .inl rfl⟩ hpos
  obtain ⟨c', hp, hservice, hc', hr'⟩ := exists_prompts (Watch.await_flows hcollected.fit (allOver t.live) ms)
    fun w hw => ⟨t, hc, hw⟩
  refine ⟨{ c' with returned := some c'.service }, hp.tail ⟨.leave (hc'.trans hc) (hr'.trans hr) ?_, ?_⟩, hservice, rfl⟩
  · rw [hservice]
    exact hover
  · exact fun _ hlt => absurd hlt (Nat.lt_irrefl _)

/-- The call collects the sessions at once when the loop has ended. -/
theorem prompt_collect (hc : c.collected = none) (hl : c.service.watch.loop = none) :
    Prompt c { c.goesOn (c.service.ask c.service.live) with collected := some c.service } := by
  refine ⟨.collect hc hl, fun _ hlt => absurd ?_ hlt.ne'⟩
  change (c.service.ask c.service.live).watch.now = _
  rw [ask_eq]

theorem prompt_endLoop (hc : c.collected = none) : Prompt c (c.goesOn c.service.stopLoop) := by
  refine ⟨.endLoop hc, fun _ hlt => absurd ?_ hlt.ne'⟩
  obtain ⟨_, -, he⟩ := c.service.stopLoop_shape
  change c.service.stopLoop.watch.now = _
  rw [he]

/-- A call can always return. -/
theorem Kept.exists_return (h : Kept config s c) : ∃ c', Prompts c c' ∧ c'.returned ≠ none := by
  have hleave : ∀ {c : Closing} {t : Service}, Kept config s c → c.collected = some t → c.returned = none →
      ∃ c', Prompts c c' ∧ c'.returned ≠ none := fun h hc hr => by
    obtain ⟨c', hp, -, hreturned⟩ := h.exists_leave hc hr (Nat.le_succ _) (Nat.succ_pos _)
    exact ⟨c', hp, by simp [hreturned]⟩
  cases hr : c.returned with
  | some u => exact ⟨c, .refl, by simp [hr]⟩
  | none =>
    cases hc : c.collected with
    | some t => exact hleave h hc hr
    | none =>
      have hended := prompt_endLoop hc
      have hasked := prompt_collect (c := c.goesOn c.service.stopLoop) hc c.service.loop_stopLoop
      obtain ⟨c', hp, hreturned⟩ := hleave ((h.step hended.1).step hasked.1) rfl hr
      exact ⟨c', .head hended (.head hasked hp), hreturned⟩

/-! What is run -/

theorem graceMs_le_horizon (hv : config.validate = .ok ()) : config.graceMs ≤ Watch.horizon := by
  have hday : config.supervisor.stopGraceSeconds ≤ 86400 := Config.stopGraceSeconds_le hv
  have hgrace : config.graceMs = 1000 * config.supervisor.stopGraceSeconds := Duration.millisUp_ofSeconds _
  have hlt : config.graceMs < 2 ^ 64 := by omega
  exact hlt.le

/-- What is run is a call in which nothing takes time. -/
theorem exists_shutdown (h : Arises config s) : ∃ c, Prompts (ofService s) c ∧ c.service = s.shutdown ∧
    c.returned = some s.shutdown := by
  have hended : Prompt (ofService s) ((ofService s).goesOn s.stopLoop) := prompt_endLoop rfl
  have hkept := (kept_ofService h).step hended.1
  have hsettle := Watch.settle_flows hkept.regular.fit fun _ => true
  obtain ⟨c, hp, hservice, hcollected, hreturned⟩ := exists_prompts hsettle.1 nofun
  obtain hservice : c.service = s.looseLoop := hservice
  have hloop : s.looseLoop.watch.loop = none :=
    loop_meanwhiles s.loop_stopLoop (Service.flows_meanwhiles (s := s.stopLoop) hsettle.1)
  have hasked := prompt_collect (c := c) hcollected (hservice ▸ hloop)
  have hcalled : Prompts (ofService s) _ := (Relation.ReflTransGen.head hended hp).tail hasked
  obtain ⟨c', hp', hservice', hreturned'⟩ := (kept_of_steps h (Prompts.steps hcalled)).exists_leave rfl hreturned
    (graceMs_le_horizon h.regular.valid) (Nat.two_pow_pos 64)
  have hshutdown : c'.service = s.shutdown := by
    rw [hservice', s.shutdown_eq, ← hservice]
    rfl
  exact ⟨c', hcalled.trans hp', hshutdown, hshutdown ▸ hreturned'⟩

/-! What it comes to -/

/-- How it is after a call of `shutdown` that was made in a state, collected the sessions in another, and returned in
a third one. -/
structure Closed (config : Config) (s t u : Service) (c : Closing) : Prop where
  targets : c.service.watch.runs.map (·.target) = s.watch.runs.map (·.target)
  ended : ∀ x ∈ c.service.watch.runs, x.isFinished = true ∧ x.hold.isCapture = false
  /-- A session that was under way when the sessions were collected is stopped, and has reported that since. -/
  stopped : ∀ r ∈ t.watch.runs, r.isFinished = false →
    (∃ x ∈ c.service.watch.runs, x.target = r.target ∧ x.shown.state = .stopped) ∧
    c.service.watch.journal.line r.target = t.watch.journal.line r.target ++ [.stopped]
  /-- In all its time, from when it was there, it has reported once that it is stopped. -/
  once : ∀ r ∈ t.watch.runs, r.isFinished = false → ∀ o, Arises config o → (∃ x ∈ o.watch.runs, x.target = r.target) →
    Relation.ReflTransGen (Onward r.target) o t → stops c.service.watch r.target = stops o.watch r.target + 1
  /-- A session that was over when the sessions were collected is as it was. -/
  finished : ∀ r ∈ t.watch.runs, r.isFinished = true →
    (∃ x ∈ c.service.watch.runs, x.target = r.target ∧ x.shown = r.shown) ∧
    c.service.watch.journal.line r.target = t.watch.journal.line r.target
  /-- So is one that was over when the call was made. -/
  earlier : ∀ r ∈ s.watch.runs, r.isFinished = true →
    ∃ x ∈ c.service.watch.runs, x.target = r.target ∧ x.shown = r.shown
  /-- The loop has ended, and of its rounds none is on its way. -/
  loop : c.service.watch.loop = none ∧ ∀ key ∈ c.cycles, ∀ r, (key, r) ∉ c.service.watch.rounds
  /-- Since the return no session has done anything. -/
  silent : Silent u c.service
  /-- Neither the loop nor a session has anything to do. -/
  rest : c.service.watch.loopStep? = none ∧ ∀ r ∈ c.service.watch.runs, c.service.watch.runStep? r = none

theorem Kept.closed (h : Kept config s c) (hc : c.collected = some t) (hu : c.returned = some u) :
    Closed config s t u c := by
  obtain ⟨harises, hcollected⟩ := h.collected t hc
  obtain ⟨-, hsilent⟩ := h.returned u hu
  have hstopped : ∀ r ∈ t.watch.runs, r.isFinished = false →
      (∃ x ∈ c.service.watch.runs, x.target = r.target ∧ x.shown.state = .stopped) ∧
      c.service.watch.journal.line r.target = t.watch.journal.line r.target ++ [.stopped] := fun r hr hf => by
    cases hcollected.fates r hr with
    | finished hf' => cases hf.symm.trans hf'
    | stopping _ hx _ _ hxf => cases hxf.symm.trans (hsilent.ended _ hx)
    | stopped _ hx ht hs hl => exact ⟨⟨_, hx, ht, hs⟩, hl⟩
  constructor
  case targets => exact h.targets
  case ended =>
    intro x hx
    exact ⟨hsilent.ended x hx, ((h.manages x hx).poised.final (hsilent.ended x hx)).1⟩
  case stopped => exact hstopped
  case once =>
    intro r hr hf o ho hx hs
    rw [stops, (hstopped r hr hf).2, List.count_append, List.count_singleton_self]
    exact congrArg (· + 1) (Service.stops_eq ho hs hx hr rfl hf)
  case finished =>
    intro r hr hf
    cases hcollected.fates r hr with
    | finished _ hx ht hs hl => exact ⟨⟨_, hx, ht, hs⟩, hl⟩
    | stopping hf' | stopped hf' => cases hf'.symm.trans hf
  case earlier => exact h.earlier
  case loop =>
    refine ⟨hcollected.loop, fun key hk => (h.cycles key hk).2.resolve_left fun hcycle => ?_⟩
    rw [Watch.cycle?, hcollected.loop] at hcycle
    cases hcycle
  case silent => exact hsilent
  case rest =>
    refine ⟨by rw [Watch.loopStep?, hcollected.loop], fun x hx => ?_⟩
    exact Option.map_eq_none_iff.mpr ((h.manages x hx).step_of_finished (hsilent.ended x hx))

/-- In whatever state a service is shut down, and whatever goes on meanwhile as long as nobody starts a session or the
health loop: once the call has returned all sessions have ended and the loop has, those that were under way have
reported once that they are stopped, and neither does anything more. The call can always return. If nothing takes time
but the end of a capture it does within the grace period, however many sessions there are, and so does the call that
is run. -/
theorem shutdown_closes (h : Arises config s) :
    (∀ c u, Steps (ofService s) c → c.returned = some u → ∃ t, c.collected = some t ∧ Closed config s t u c) ∧
    (∀ c u, Prompts (ofService s) c → c.returned = some u → u.watch.now ≤ s.watch.now + config.graceMs) ∧
    (∀ c, Steps (ofService s) c → ∃ c', Prompts c c' ∧ c'.returned ≠ none) ∧
    ∃ c, Prompts (ofService s) c ∧ c.service = s.shutdown ∧ c.returned = some s.shutdown := by
  refine ⟨fun c u hs hu => ?_, fun c u hp => (onTime_of_prompts h hp).after u,
    fun c hs => (kept_of_steps h hs).exists_return, exists_shutdown h⟩
  have hkept := kept_of_steps h hs
  obtain ⟨⟨t, ht⟩, -⟩ := hkept.returned u hu
  exact ⟨t, ht, hkept.closed ht hu⟩

/-- A service whose loop waits and whose one session has not begun yet. -/
theorem shutdown_closes_started : ∃ config s, Arises config s ∧ s.watch.loop.isSome = true ∧
    (∃ r ∈ s.watch.runs, r.isFinished = false) ∧ s.shutdown.watch.loop = none ∧
    (∀ x ∈ s.shutdown.watch.runs, x.isFinished = true) ∧ s.shutdown.watch.now ≤ s.watch.now + config.graceMs := by
  let config : Config := { health := { probeUrl := "http://[::1]/" } }
  have hv : config.validate = .ok () := by decide +kernel
  obtain ⟨s₀, hb⟩ := Service.exists_build config { clock := default } hv nofun
  let started := (s₀.startSession "t").1
  let s := started.startLoop.1
  have harises : Arises config s := .move (.move (.built hb) (.startSession "t")) .startLoop
  have hfree : (s₀.watch.run? "t").any (!·.isFinished) = false := by simp [Watch.run?, Stage.runs_of_build hb]
  let r : SessionRun := { session := Session.ofTarget s₀.config.sessionOptions "t" s₀.watch.clock }
  have hstarted : started = { s₀ with watch := { s₀.watch with runs := [r] } } := by
    simp only [started, Stage.startSession_of_free hfree, Stage.runs_of_build hb]
    rfl
  have hs : s = { started with watch := { started.watch with loop := some { tick := started.watch.now } } } := by
    have hloop : started.watch.loop = none := by
      rw [hstarted]
      exact (Service.steady_build hb).2.2.1
    simp only [s, Service.startLoop, hloop]
  have hruns : s.watch.runs = [r] := by rw [hs, hstarted]
  obtain ⟨hclosed, hprompt, -, c, hp, hservice, hreturned⟩ := shutdown_closes harises
  obtain ⟨t, -, hc⟩ := hclosed c _ (Prompts.steps hp) hreturned
  refine ⟨config, s, harises, by rw [hs]; rfl, ⟨r, hruns ▸ List.mem_singleton_self r, rfl⟩, hservice ▸ hc.loop.1,
    fun x hx => (hc.ended x (hservice ▸ hx)).1, hprompt c _ hp hreturned⟩

end Closing
end ProxyWatch
