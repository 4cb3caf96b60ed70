import ProxyWatch.Proofs.Service.Sessions

/-! The shutdown of a service, while all goes on that nobody has to start. The call ends the health loop, then collects
the sessions that are under way and asks them to stop, and then waits for their ends. -/
namespace ProxyWatch

open SessionRun (Managed)
open Service (Meanwhile Manages Regular Arises allOver)
open Watch (Fit Flow Flows Distinct Coming)

/-- The time that a session gives its capture to end, in milliseconds. -/
def Config.graceMs (config : Config) : Nat := config.sessionOptions.stopGrace.millisUp

/-- A call of `shutdown` on its way. -/
structure Closing where
  service : Service
  /-- The service when its sessions were collected, just before they were asked to stop. -/
  collected : Option Service := none
  /-- The service when the call returned. -/
  returned : Option Service := none
  /-- The keys of the rounds that the health loop has had since the call. -/
  cycles : List Nat := []

namespace Closing

/-- The service has come to another state. -/
def goesOn (c : Closing) (s : Service) : Closing := { c with service := s, cycles := s.watch.cycle?.toList ++ c.cycles }

/-- The call is made. -/
def ofService (s : Service) : Closing := { service := s, cycles := s.watch.cycle?.toList }

/-- What the call does, and what happens meanwhile and after it. -/
inductive Step (c : Closing) : Closing → Prop
  | meanwhile {s : Service} (h : Meanwhile c.service s) : Step c (c.goesOn s)
  | endLoop (hc : c.collected = none) : Step c (c.goesOn c.service.stopLoop)
  /-- Once the loop has ended, the sessions that are under way are collected and asked to stop. -/
  | collect (hc : c.collected = none) (hl : c.service.watch.loop = none) :
      Step c { c.goesOn (c.service.ask c.service.live) with collected := some c.service }
  /-- Once all of these have ended, the call returns. -/
  | leave {t : Service} (hc : c.collected = some t) (hr : c.returned = none)
      (ho : allOver t.live c.service.watch = true) : Step c { c with returned := some c.service }

abbrev Steps : Closing → Closing → Prop := Relation.ReflTransGen Step

/-- Neither the call nor a session has anything to do before an instant. -/
structure Idle (c : Closing) (now : Nat) : Prop where
  waits : ∃ t, c.collected = some t ∧ allOver t.live c.service.watch = false
  rest : c.service.watch.sessionStep? = none
  due : ∀ r ∈ c.service.watch.runs, ∀ d ∈ r.due, c.service.watch.now < d → now ≤ d

/-- A step in which nothing takes time, a kill included: until the call returns, time passes only while the call and the
sessions have nothing to do. -/
def Prompt (c c' : Closing) : Prop :=
  Step c c' ∧ (c.returned = none → c.service.watch.now < c'.service.watch.now → Idle c c'.service.watch.now)

abbrev Prompts : Closing → Closing → Prop := Relation.ReflTransGen Prompt

/-- What has become of a session that was known when the sessions were collected, given what its target had reported. -/
inductive Fate (line : List SessionState) (r : SessionRun) (w : Watch) : Prop
  | finished {x : SessionRun} (hr : r.isFinished = true) (hx : x ∈ w.runs) (ht : x.target = r.target)
      (hs : x.shown = r.shown) (hl : w.journal.line r.target = line)
  | stopping {x : SessionRun} (hr : r.isFinished = false) (hx : x ∈ w.runs) (ht : x.target = r.target)
      (hs : x.session.stopping = true) (hf : x.isFinished = false) (hl : w.journal.line r.target = line)
  | stopped {x : SessionRun} (hr : r.isFinished = false) (hx : x ∈ w.runs) (ht : x.target = r.target)
      (hs : x.shown.state = .stopped) (hl : w.journal.line r.target = line ++ [.stopped])

variable {config : Config} {s s' t u : Service} {w : Watch} {c c' : Closing} {r x : SessionRun}
  {line : List SessionState} {key : Nat}

/-! One session -/

theorem Fate.follows {w w' : Watch} (h : Fate line r w) (hm : Manages config w)
    (hnext : ∀ x ∈ w.runs, ∃ y ∈ w'.runs, Service.Follows w w' x y) : Fate line r w' := by
  cases h with
  | @finished x hr hx ht hs hl =>
    obtain ⟨y, hy, hfollows⟩ := hnext x hx
    have hf : x.isFinished = true := by
      rw [SessionRun.isFinished, hs]
      exact hr
    obtain ⟨hshown, hline⟩ := hfollows.finished (hm x hx) hf
    rw [ht] at hline
    exact .finished hr hy (hfollows.target_eq.trans ht) (hshown.trans hs) (hline.trans hl)
  | @stopped x hr hx ht hs hl =>
    obtain ⟨y, hy, hfollows⟩ := hnext x hx
    have hf : x.isFinished = true := by
      rw [SessionRun.isFinished, hs]
      rfl
    obtain ⟨hshown, hline⟩ := hfollows.finished (hm x hx) hf
    rw [ht] at hline
    exact .stopped hr hy (hfollows.target_eq.trans ht) (hshown ▸ hs) (hline.trans hl)
  | @stopping x hr hx ht hs hf hl =>
    obtain ⟨y, hy, hfollows⟩ := hnext x hx
    have htarget := hfollows.target_eq.trans ht
    cases hfollows with
    | kept hline => exact .stopping hr hy ht hs hf ((ht ▸ hline).trans hl)
    | asked hline => exact .stopping hr hy ht rfl hf ((ht ▸ hline).trans hl)
    | went _ hstep hline =>
      rw [ht, hl] at hline
      obtain ⟨hstop, ⟨hf', hnone⟩ | ⟨hstopped, e, he, hentered⟩⟩ := (hm x hx).step_stopping hs hstep
      · rw [hnone, List.filterMap_nil, List.append_nil] at hline
        exact .stopping hr hy htarget hstop hf' hline
      · rw [he, List.filterMap_cons_some (ht ▸ hentered), List.filterMap_nil] at hline
        exact .stopped hr hy htarget hstopped hline

/-! The rounds of the loop -/

/-- A key was given out, and its round is the loop's or it has none. -/
def LoopKey (key : Nat) (w : Watch) : Prop := key < w.nextKey ∧ (w.cycle? = some key ∨ ∀ r, (key, r) ∉ w.rounds)

theorem LoopKey.frame {w w' : Watch} (h : LoopKey key w) (hk : w'.nextKey = w.nextKey) (hc : w'.cycle? = w.cycle?)
    (hr : ∀ r, (key, r) ∈ w'.rounds → ∃ r', (key, r') ∈ w.rounds) : LoopKey key w' := by
  refine ⟨hk ▸ h.1, h.2.imp (hc ▸ ·) fun hnone r hr' => ?_⟩
  obtain ⟨r', hr'⟩ := hr r hr'
  exact hnone r' hr'

theorem LoopKey.loopStep (h : LoopKey key w) {w' : Watch} (hs : w.loopStep? = some w') : LoopKey key w' := by
  cases Watch.loopStep_cases hs with
  | @ended l k hl hk _ =>
    have hcycle : w.cycle? = some k := by rw [Watch.cycle?, hl, Option.bind_some, hk]
    refine ⟨h.1, .inr fun r hr => ?_⟩
    obtain ⟨hm, hne⟩ := List.mem_filter.mp hr
    rcases h.2 with hkey | hnone
    · obtain rfl := Option.some.inj (hcycle.symm.trans hkey)
      simp at hne
    · exact hnone r hm
  | @begun l w₁ k hl hk _ hc =>
    have hcycle : w.cycle? = none := by rw [Watch.cycle?, hl, Option.bind_some, hk]
    obtain ⟨_, _, _, _, -, rfl, -, -, rfl⟩ := Watch.startRound_shape hc
    refine ⟨Nat.lt_succ_of_lt h.1, .inr fun r hr => ?_⟩
    rcases List.mem_append.mp hr with hr | hr
    · rcases h.2 with hkey | hnone
      · cases hcycle.symm.trans hkey
      · exact hnone r hr
    · cases List.mem_singleton.mp hr
      exact Nat.lt_irrefl _ h.1
  | @failed l hl hk _ _ =>
    have hcycle : w.cycle? = none := by rw [Watch.cycle?, hl, Option.bind_some, hk]
    refine ⟨h.1, .inr ?_⟩
    rcases h.2 with hkey | hnone
    · cases hcycle.symm.trans hkey
    · exact hnone

theorem LoopKey.stopLoop (h : LoopKey key s.watch) : LoopKey key s.stopLoop.watch := by
  unfold Service.stopLoop
  split
  · rename_i k hl
    have hcycle : s.watch.cycle? = some k := by rw [Watch.cycle?, hl, Option.bind_some]
    refine ⟨h.1, .inr fun r hr => ?_⟩
    obtain ⟨hm, hne⟩ := List.mem_filter.mp hr
    rcases h.2 with hkey | hnone
    · obtain rfl := Option.some.inj (hcycle.symm.trans hkey)
      simp at hne
    · exact hnone r hm
  · rename_i hl
    refine ⟨h.1, .inr ?_⟩
    rcases h.2 with hkey | hnone
    · obtain ⟨⟨tick, round⟩, hloop, hround⟩ := Option.bind_eq_some_iff.mp hkey
      obtain rfl : round = some key := hround
      exact absurd hloop (hl tick key)
    · exact hnone

theorem LoopKey.meanwhile (h : LoopKey key s.watch) (hm : Meanwhile s s') : LoopKey key s'.watch := by
  cases hm with
  | change c =>
    obtain ⟨_, _, he⟩ := s.change_shape c
    rw [he]
    exact h
  | reenable | pass | around | ask => exact h
  | send hs =>
    obtain ⟨_, _, _, _, -, rfl, -, -, rfl⟩ := Watch.startRound_shape hs
    refine ⟨Nat.lt_succ_of_lt h.1, h.2.imp_right fun hnone r hr => ?_⟩
    rcases List.mem_append.mp hr with hr | hr
    · exact hnone r hr
    · cases List.mem_singleton.mp hr
      exact Nat.lt_irrefl _ h.1
  | drop => exact h.frame rfl rfl fun r hr => ⟨r, (List.mem_filter.mp hr).1⟩
  | @land _ k r _ hl =>
    obtain ⟨_, _, _, _, _, _, -, -, rfl⟩ := Watch.land_shape hl
    refine h.frame rfl rfl fun r' hr' => ?_
    obtain ⟨⟨k', x⟩, hx, he⟩ := List.mem_map.mp hr'
    have hkey : k' = key := by
      dsimp only at he
      split at he
      · rename_i hk
        cases he
        exact hk
      · cases he
        rfl
    exact ⟨x, hkey ▸ hx⟩
  | loop hs => exact h.loopStep hs
  | stopLoop => exact h.stopLoop
  | go _ hs =>
    obtain ⟨_, _, _, -, -, rfl⟩ := Watch.runStep_shape hs
    exact h

/-- While nobody starts the loop, it stays ended once it has ended. -/
theorem loop_meanwhile (hl : s.watch.loop = none) (hm : Meanwhile s s') : s'.watch.loop = none := by
  cases hm with
  | change c =>
    obtain ⟨_, _, he⟩ := s.change_shape c
    rw [he]
    exact hl
  | reenable | pass | around | ask | drop => exact hl
  | send hs =>
    obtain ⟨_, _, _, _, -, -, -, -, rfl⟩ := Watch.startRound_shape hs
    exact hl
  | land _ hs =>
    obtain ⟨_, _, _, _, _, _, -, -, rfl⟩ := Watch.land_shape hs
    exact hl
  | loop hs => simp [Watch.loopStep?, hl] at hs
  | stopLoop => exact s.loop_stopLoop
  | go _ hs =>
    obtain ⟨_, _, _, -, -, rfl⟩ := Watch.runStep_shape hs
    exact hl

theorem loop_meanwhiles (hl : s.watch.loop = none) (hm : Service.Meanwhiles s s') : s'.watch.loop = none := by
  induction hm with
  | refl => exact hl
  | tail _ hm ih => exact loop_meanwhile ih hm

/-! Once the sessions were collected -/

/-- What is true once the sessions under way were asked to stop. -/
structure Collected (config : Config) (t : Service) (w : Watch) : Prop where
  fit : Fit w
  manages : Manages config w
  loop : w.loop = none
  targets : w.runs.map (·.target) = t.watch.runs.map (·.target)
  fates : ∀ r ∈ t.watch.runs, Fate (t.watch.journal.line r.target) r w

theorem ask_eq (s : Service) (targets : List String) : s.ask targets = { s with watch := { s.watch with
    runs := s.watch.runs.map fun r => if r.target ∈ targets then { r with session := r.session.stop } else r } } := by
  induction targets generalizing s with
  | nil => simp [Service.ask]
  | cons target targets ih =>
    have hask : s.ask (target :: targets) =
        Service.ask { s with watch := s.watch.modifySession target Session.stop } targets := rfl
    rw [hask, ih]
    refine congrArg (fun runs => ({ s with watch := { s.watch with runs } } : Service)) ?_
    rw [Watch.modifySession, List.map_map]
    refine List.map_congr_left fun r _ => ?_
    by_cases hr : r.target = target
    · have hstop : ({ r with session := r.session.stop } : SessionRun).target = target := hr
      rw [Function.comp, if_pos hr, hstop, hr, if_pos List.mem_cons_self]
      split <;> rfl
    · rw [Function.comp, if_neg hr]
      simp only [List.mem_cons, hr, false_or]

theorem collected_ask (h : t.Regular config) (hm : Manages config t.watch) (hl : t.watch.loop = none) :
    Collected config t (t.ask t.live).watch := by
  have hasked := t.ask_meanwhiles t.live
  have hregular := h.meanwhiles hasked
  have hmanages := hm.meanwhiles h hasked
  rw [ask_eq] at hregular hmanages ⊢
  refine ⟨hregular.fit, hmanages, hl, ?_, fun r hr => ?_⟩
  · rw [List.map_map]
    refine List.map_congr_left fun r _ => ?_
    simp only [Function.comp]
    split <;> rfl
  · cases hf : r.isFinished with
    | true =>
      refine .finished hf (List.mem_map_of_mem hr) ?_ ?_ rfl
      · split <;> rfl
      · split <;> rfl
    | false =>
      have hlive : r.target ∈ t.live := List.mem_map_of_mem (List.mem_filter.mpr ⟨hr, by simp [hf]⟩)
      exact .stopping hf (List.mem_map.mpr ⟨r, hr, if_pos hlive⟩) rfl rfl hf rfl

namespace Collected

theorem nodup (h : Collected config t w) : (w.runs.map (·.target)).Nodup := h.fit.distinct.targets

theorem meanwhile (h : Collected config t s.watch) (hr : s.Regular config) (hm : Meanwhile s s') :
    Collected config t s'.watch where
  fit := (hr.meanwhile hm).fit
  manages := h.manages.meanwhile hr.valid hm
  loop := loop_meanwhile h.loop hm
  targets := hm.targets_eq.trans h.targets
  fates r hr' := (h.fates r hr').follows h.manages fun _ hx => hm.follows h.nodup hx

/-- A session that is not over was asked to stop. -/
theorem stopping (h : Collected config t w) (hx : x ∈ w.runs) (hf : x.isFinished = false) :
    x.session.stopping = true ∧ x.target ∈ t.live := by
  have ht : x.target ∈ t.watch.runs.map (·.target) := h.targets ▸ List.mem_map_of_mem hx
  obtain ⟨r, hr, hrx⟩ := List.mem_map.mp ht
  cases h.fates r hr with
  | finished hr' hy hyt hs =>
    obtain rfl := List.inj_on_of_nodup_map h.nodup hx hy (hrx.symm.trans hyt.symm)
    rw [SessionRun.isFinished, hs] at hf
    cases hr'.symm.trans hf
  | stopping hr' hy hyt hs =>
    obtain rfl := List.inj_on_of_nodup_map h.nodup hx hy (hrx.symm.trans hyt.symm)
    exact ⟨hs, hrx ▸ List.mem_map_of_mem (List.mem_filter.mpr ⟨hr, by simp [hr']⟩)⟩
  | stopped _ hy hyt hs =>
    obtain rfl := List.inj_on_of_nodup_map h.nodup hx hy (hrx.symm.trans hyt.symm)
    rw [SessionRun.isFinished, hs] at hf
    cases hf

theorem outcome_isSome (h : Collected config t w) (hx : x ∈ w.runs) :
    (w.outcome? x.target).isSome = x.isFinished := by
  have hrun : w.run? x.target = some x := Stage.run?_of_mem (s := { config, watch := w }) h.nodup hx
  rw [Watch.outcome?, hrun, Option.bind_some, (h.manages x hx).outcome_isSome]

/-- The call can return when every session is over, and not before. -/
theorem allOver_iff (h : Collected config t w) : allOver t.live w = true ↔ ∀ x ∈ w.runs, x.isFinished = true := by
  rw [allOver, List.all_eq_true]
  constructor
  · intro hall x hx
    by_contra hf
    have houtcome := h.outcome_isSome hx
    rw [hall _ (h.stopping hx (by simpa using hf)).2] at houtcome
    exact hf houtcome.symm
  · intro hall target htarget
    obtain ⟨r, hr, rfl⟩ := List.mem_map.mp htarget
    have ht : r.target ∈ w.runs.map (·.target) := h.targets ▸ List.mem_map_of_mem (List.mem_filter.mp hr).1
    obtain ⟨x, hx, hxt⟩ := List.mem_map.mp ht
    have houtcome := h.outcome_isSome hx
    rw [hall x hx] at houtcome
    exact hxt ▸ houtcome

theorem exists_unfinished (h : Collected config t w) (hover : allOver t.live w = false) :
    ∃ x ∈ w.runs, x.isFinished = false := by
  by_contra hnone
  have hall := h.allOver_iff.mpr fun x hx => by
    by_contra hf
    exact hnone ⟨x, hx, by simpa using hf⟩
  cases hover.symm.trans hall

/-- While a session is under way and none can go on, it waits for its capture to end. -/
theorem exists_ending (h : Collected config t w) (hrest : w.sessionStep? = none) (hx : x ∈ w.runs)
    (hf : x.isFinished = false) : ∃ d, x.session.phase = .ending d ∧ w.now < d ∧ d ∈ x.due := by
  have hnone : x.step (w.launcher w.launches) w.now w.clock w.store.registry.entries = none :=
    Option.map_eq_none_iff.mp (List.findSome?_eq_none_iff.mp hrest x hx)
  obtain ⟨d, hd, hlt⟩ := (h.manages x hx).waits (h.stopping hx hf).1 hf hnone
  refine ⟨d, hd, hlt, List.mem_filterMap.mpr ⟨some d, ?_, rfl⟩⟩
  rw [Session.wake?, hd]
  exact List.mem_cons_self

end Collected

/-! How long it takes -/

/-- A session has no more to wait for than an instant. -/
def Settled (bound : Nat) (r : SessionRun) : Prop := r.isFinished = true ∨ r.session.phase = .killing ∨
  ∃ d, r.session.phase = .ending d ∧ d ≤ bound

/-- No time has passed, or all that is left to wait for comes within the grace period. -/
def Timely (config : Config) (start : Nat) (w : Watch) : Prop := w.now = start ∨
  w.now ≤ start + config.graceMs ∧ ∀ x ∈ w.runs, Settled (start + config.graceMs) x

theorem Settled.follows {w w' : Watch} {bound : Nat} (h : Settled bound r) (hv : config.validate = .ok ())
    (hm : Managed config w.now r) (hf : Service.Follows w w' r x) : Settled bound x := by
  cases hf with
  | kept | asked => exact h
  | went _ hs =>
    have hx := hm.step hv hs
    have hgoing := hx.going
    -- A session that shuts its capture down only comes nearer to its end.
    have hrank : r.session.stopping = true →
        Session.Phase.rank x.session.phase < Session.Phase.rank r.session.phase := fun hstop => by
      obtain ⟨s, acts, hstep, rfl, -⟩ := SessionRun.exists_of_step hs
      rw [SessionRun.session_foldl]
      exact (Session.step_cases hstep).rank_lt hstop
    rw [Settled, hx.isFinished_iff]
    rcases h with hfinished | hphase | ⟨d, hphase, -⟩
    · cases (hm.step_of_finished hfinished).symm.trans hs
    · have hlt := hrank (hm.ordered (.inr hphase))
      cases hp : x.session.phase <;> simp_all [Session.Phase.rank]
    · have hlt := hrank (hm.ordered (.inl ⟨d, hphase⟩))
      cases hp : x.session.phase <;> simp_all [Session.Phase.rank]

theorem now_le_meanwhile (h : Meanwhile s s') : s.watch.now ≤ s'.watch.now := by
  rcases h.cases with ha | ⟨target, he⟩ | ⟨r, -, hg⟩
  · exact ha.now
  · rw [he]
    rfl
  · obtain ⟨_, _, -, -, hnow, -⟩ := Watch.runStep_spec hg
    exact hnow.ge

/-- A session that is under way and cannot go on comes to its end in the grace period. -/
theorem Timely.exists_ending {start : Nat} (h : Timely config start w) (hc : Collected config t w)
    (hrest : w.sessionStep? = none) (hx : x ∈ w.runs) (hf : x.isFinished = false) :
    ∃ d, x.session.phase = .ending d ∧ w.now < d ∧ d ∈ x.due ∧ d ≤ start + config.graceMs := by
  obtain ⟨d, hd, hlt, hmem⟩ := hc.exists_ending hrest hx hf
  refine ⟨d, hd, hlt, hmem, ?_⟩
  rcases h with hstart | ⟨-, hsettled⟩
  · exact hstart ▸ (hc.manages x hx).inGrace d hd
  · rcases hsettled x hx with hfinished | hphase | ⟨d', hphase, hd'⟩
    · cases hf.symm.trans hfinished
    · cases hd.symm.trans hphase
    · cases hd.symm.trans hphase
      exact hd'

/-- No time passes but while sessions wait for their captures to end. -/
theorem Timely.meanwhile {start : Nat} (h : Timely config start s.watch) (hc : Collected config t s.watch)
    (hr : s.Regular config) (hm : Meanwhile s s')
    (hidle : s.watch.now < s'.watch.now → allOver t.live s.watch = false ∧ s.watch.sessionStep? = none ∧
      ∀ r ∈ s.watch.runs, ∀ d ∈ r.due, s.watch.now < d → s'.watch.now ≤ d) : Timely config start s'.watch := by
  have hfollowed : (∀ x ∈ s.watch.runs, Settled (start + config.graceMs) x) →
      ∀ y ∈ s'.watch.runs, Settled (start + config.graceMs) y := fun hsettled y hy => by
    obtain ⟨x, hx, hf⟩ := hm.followed hc.nodup hy
    exact (hsettled x hx).follows hr.valid (hc.manages x hx) hf
  rcases (now_le_meanwhile hm).eq_or_lt with hnow | hlt
  · rw [Timely, ← hnow]
    exact h.imp_right fun h => ⟨h.1, hfollowed h.2⟩
  · obtain ⟨hover, hrest, hdue⟩ := hidle hlt
    obtain ⟨x, hx, hf⟩ := hc.exists_unfinished hover
    obtain ⟨d, -, hdlt, hmem, hbound⟩ := h.exists_ending hc hrest hx hf
    refine .inr ⟨(hdue x hx d hmem hdlt).trans hbound, hfollowed fun y hy => ?_⟩
    cases hyf : y.isFinished with
    | true => exact .inl hyf
    | false =>
      obtain ⟨d, hd, -, -, hbound⟩ := h.exists_ending hc hrest hy hyf
      exact .inr (.inr ⟨d, hd, hbound⟩)

end Closing
end ProxyWatch
