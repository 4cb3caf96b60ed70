import ProxyWatch.Proofs.Service.Deeds
import ProxyWatch.Proofs.Service.Sessions

/-! A run of a service next to the run from which the sessions of all targets but one are left out. Those of the one
target do the same in both, at the same times. -/
namespace ProxyWatch

/-- What is launched for a target behaves the same whatever was launched for others before. -/
def Launcher.Separate (launcher : Launcher) (target : String) : Prop :=
  ∀ before l, l.target = target → launcher before l = launcher (before.filter (·.target = target)) l

/-- The event is not about a session of another target. -/
def Event.concerns (target : String) : Event → Bool
  | .sessionChanged t .. => t = target
  | _ => true

/-- What was noted, but of sessions only what is about those of one target. -/
def Journal.only (j : Journal) (target : String) : Journal :=
  { j with
    events := j.events.filter (·.2.concerns target)
    captures := j.captures.filter (·.2.target = target) }

/-- The program at work without the sessions of other targets. -/
def Watch.only (w : Watch) (target : String) : Watch :=
  { w with
    runs := w.runs.filter (·.target = target)
    launches := w.launches.filter (·.target = target)
    journal := w.journal.only target }

namespace Service

/-- The service without the sessions of other targets. -/
def only (s : Service) (target : String) : Service := { s with watch := s.watch.only target }

namespace Deed

/-- It is about a session of another target. -/
def isOthers (target : String) : Deed → Bool
  | start t => t ≠ target
  | ask t => t ≠ target
  | go t => t ≠ target
  | _ => false

end Deed

/-- What is left of some deeds without the sessions of other targets. -/
def without (target : String) (ds : List Deed) : List Deed := ds.filter (!·.isOthers target)

end Service

variable {w w' : Watch} {s : Service} {target : String} {r : SessionRun} {trace : SessionTrace} {es : List Endpoint}

/-! What the program does without the sessions of other targets -/

theorem concerns_of_healthy {e : Event} (h : e.Healthy) : e.concerns target = true := by
  cases e with
  | sessionChanged t =>
    have ht := h t
    simp [Event.entered?] at ht
  | healthChanged | autoDisabled => rfl

theorem concerns_of_entered {e : Event} {t : String} (h : (e.entered? t).isSome = true) :
    e.concerns target = decide (t = target) := by
  obtain ⟨_, _, _, _, _, rfl⟩ := Event.exists_of_entered h
  rfl

namespace Watch

variable {key : Nat} {round : Round} {dry : Bool}

theorem note_only {news : List Event} (h : ∀ e ∈ news, e.concerns target = true) :
    (w.note news).only target = (w.only target).note news := by
  have hnews : (news.map (w.now, ·)).filter (·.2.concerns target) = news.map (w.now, ·) :=
    List.filter_eq_self.mpr (List.forall_mem_map.mpr h)
  simp only [only, Journal.only, note, List.filter_append, hnews]

theorem foldl_send_only (bound : Duration) (es : List Endpoint) (w : Watch) (fs : List Flight) :
    es.foldl (send bound) (w.only target, fs) =
      ((es.foldl (send bound) (w, fs)).1.only target, (es.foldl (send bound) (w, fs)).2) := by
  induction es generalizing w fs with
  | nil => rfl
  | cons e es ih => exact ih (send bound (w, fs) e).1 (send bound (w, fs) e).2

theorem startRound_only : (w.only target).startRound? es dry =
    (w.startRound? es dry).map fun x => (x.1.only target, x.2) := by
  unfold startRound?
  cases es.isEmpty with
  | true =>
    simp only [if_true, Option.bind_eq_bind, Option.bind_some, foldl_send_only]
    rfl
  | false =>
    rw [show (w.only target).checking = w.checking from rfl]
    cases w.checking.outerTimeout? with
    | none => rfl
    | some bound =>
      simp only [Bool.false_eq_true, if_false, Option.bind_eq_bind, Option.bind_some, foldl_send_only]
      rfl

theorem applyOutcome_only (w : Watch) (target id : String) (o : ProbeOutcome) : (w.only target).applyOutcome id o =
    ((w.applyOutcome id o).1.only target, (w.applyOutcome id o).2) := by
  have hstore : (w.only target).store = w.store := rfl
  have hfiles : (w.only target).files = w.files := rfl
  have hlimit : (w.only target).limit = w.limit := rfl
  unfold applyOutcome
  rw [hstore, hfiles, hlimit]
  cases w.store.applyOutcome w.files w.limit id o with
  | error => rfl
  | ok x =>
    obtain ⟨store, files, a⟩ := x
    have hnote : (({ w with store, files } : Watch).note a.events).only target = _ :=
      note_only fun e he => concerns_of_healthy (healthy_applied a e he)
    exact congrArg (·, some a) hnote.symm

theorem land_only : (w.only target).land? key round = (w.land? key round).map (·.only target) := by
  unfold land?
  rw [Option.map_map]
  refine congrArg (Option.map · _) (funext fun x => ?_)
  obtain ⟨f, flights⟩ := x
  dsimp only [Function.comp]
  cases round.dry with
  | true => rfl
  | false =>
    have happly := applyOutcome_only w target f.endpoint (.ofResult w.clock f.result)
    simp only [Bool.false_eq_true, if_false]
    rw [show (w.only target).clock = w.clock from rfl, happly]
    rfl

theorem findSome_map {α β γ : Type} {f : α → Option β} {g : α → Option γ} {m : γ → β} (h : ∀ a, f a = (g a).map m)
    (as : List α) : as.findSome? f = (as.findSome? g).map m := by
  rw [show f = fun a => (g a).map m from funext h, List.map_findSome?]
  rfl

theorem probeStep_only : (w.only target).probeStep? = w.probeStep?.map (·.only target) :=
  findSome_map (fun _ => land_only) w.rounds

theorem loopStep_only : (w.only target).loopStep? = w.loopStep?.map (·.only target) := by
  unfold loopStep?
  rw [show (w.only target).loop = w.loop from rfl]
  cases w.loop with
  | none => rfl
  | some l =>
    cases hr : l.round with
    | some key =>
      simp only [hr]
      rw [show (w.only target).isOver key = w.isOver key from rfl]
      split <;> rfl
    | none =>
      simp only [hr]
      rw [show (w.only target).now = w.now from rfl]
      split
      · have hstart : (w.only target).startCycle? = w.startCycle?.map fun x => (x.1.only target, x.2) := startRound_only
        rw [hstart]
        cases w.startCycle? <;> rfl
      · rfl

/-! Sessions -/

theorem replaced_only {run' : SessionRun} (ht : run'.target = r.target) (target : String) (runs : List SessionRun) :
    (runs.map fun x => if x.target = r.target then run' else x).filter (·.target = target) =
      (runs.filter (·.target = target)).map fun x => if x.target = r.target then run' else x := by
  induction runs with
  | nil => rfl
  | cons x runs ih =>
    have hx : (if x.target = r.target then run' else x).target = x.target := by
      split
      · rename_i he
        exact ht.trans he.symm
      · rfl
    rw [List.map_cons, List.filter_cons, List.filter_cons, hx, ih]
    split <;> rfl

theorem filter_const {α : Type} {p : α → Bool} {b : Bool} {as : List α} (h : ∀ a ∈ as, p a = b) :
    as.filter p = if b then as else [] := by
  cases b with
  | true => exact List.filter_eq_self.mpr h
  | false => exact List.filter_eq_nil_iff.mpr fun a ha => by simp [h a ha]

/-- What a session leaves behind is kept or left out as a whole. -/
theorem noted_only (w : Watch) (target : String) (he : ∀ e ∈ trace.events, (e.entered? r.target).isSome = true)
    (hc : ∀ c ∈ trace.calls, c.target = r.target) : ((w.note trace.events).noteCalls trace.calls).only target =
      if r.target = target then ((w.only target).note trace.events).noteCalls trace.calls else w.only target := by
  have hevents : (trace.events.map (w.now, ·)).filter (·.2.concerns target) =
      if decide (r.target = target) then trace.events.map (w.now, ·) else [] :=
    filter_const (List.forall_mem_map.mpr fun e h => concerns_of_entered (he e h))
  have hcalls : (trace.calls.map (w.now, ·)).filter (·.2.target = target) =
      if decide (r.target = target) then trace.calls.map (w.now, ·) else [] :=
    filter_const (List.forall_mem_map.mpr fun c h => by rw [hc c h])
  have hlaunches : (trace.calls.filterMap CaptureCall.launch?).reverse.filter (·.target = target) =
      if decide (r.target = target) then (trace.calls.filterMap CaptureCall.launch?).reverse else [] := by
    refine filter_const fun l hl => ?_
    obtain ⟨c, hmem, hcl⟩ := List.mem_filterMap.mp (List.mem_reverse.mp hl)
    cases c with
    | launch l' =>
      cases hcl
      rw [← hc _ hmem]
      rfl
    | terminate | kill => cases hcl
  have hleft : ((w.note trace.events).noteCalls trace.calls).only target =
      { w.only target with
        launches := ((trace.calls.filterMap CaptureCall.launch?).reverse ++ w.launches).filter (·.target = target)
        journal := { w.journal with
          events := (w.journal.events ++ trace.events.map (w.now, ·)).filter (·.2.concerns target)
          captures := (w.journal.captures ++ trace.calls.map (w.now, ·)).filter (·.2.target = target) } } := rfl
  rw [hleft, List.filter_append, List.filter_append, List.filter_append, hevents, hcalls, hlaunches]
  by_cases ht : r.target = target
  · simp only [ht, decide_true, if_true]
    rfl
  · simp only [ht, decide_false, Bool.false_eq_true, if_false, List.append_nil, List.nil_append]
    rfl

theorem runStep_only (hl : w.launcher.Separate target) (hr : r.target = target) :
    (w.only target).runStep? r = (w.runStep? r).map (·.only target) := by
  unfold runStep?
  have hstep : r.step ((w.only target).launcher (w.only target).launches) w.now w.clock w.store.registry.entries =
      r.step (w.launcher w.launches) w.now w.clock w.store.registry.entries :=
    SessionRun.step_congr fun l h => (hl w.launches l (h.trans hr)).symm
  rw [Option.map_map]
  change Option.map _ (r.step ((w.only target).launcher (w.only target).launches) w.now w.clock
    w.store.registry.entries) = _
  rw [hstep]
  cases hs : r.step (w.launcher w.launches) w.now w.clock w.store.registry.entries with
  | none => rfl
  | some x =>
    obtain ⟨run', trace⟩ := x
    have hnoted := noted_only w target (SessionRun.tells_of_step hs) (SessionRun.calls_of_step hs)
    rw [if_pos hr] at hnoted
    have hruns := replaced_only (SessionRun.step_counts hs).1 target w.runs
    exact congrArg some (congrArg₂ (fun u runs => { u with runs }) hnoted.symm hruns.symm)

theorem only_of_runStep (hr : r.target ≠ target) (h : w.runStep? r = some w') : w'.only target = w.only target := by
  obtain ⟨⟨run', trace⟩, hs, rfl⟩ := Option.map_eq_some_iff.mp h
  have hnoted := noted_only w target (SessionRun.tells_of_step hs) (SessionRun.calls_of_step hs)
  rw [if_neg hr] at hnoted
  have hruns : (w.runs.map fun x => if x.target = r.target then run' else x).filter (·.target = target) =
      w.runs.filter (·.target = target) := by
    rw [replaced_only (SessionRun.step_counts hs).1]
    refine (List.map_congr_left fun x hx => if_neg fun he => hr ?_).trans (List.map_id _)
    exact he.symm.trans (by simpa using (List.mem_filter.mp hx).2)
  exact congrArg₂ (fun u runs => { u with runs }) hnoted hruns

theorem run?_only : (w.only target).run? target = w.run? target := by
  unfold run? only
  rw [List.find?_filter]
  exact congrArg (List.find? · w.runs) (funext fun r => by simp)

theorem modifySession_only (w : Watch) (t : String) : (w.modifySession t Session.stop).only target =
    if t = target then (w.only target).modifySession t Session.stop else w.only target := by
  have hkept : ∀ r : SessionRun, (if r.target = t then { r with session := r.session.stop } else r).target = r.target := by
    intro r
    split <;> rfl
  have hruns : (w.modifySession t Session.stop).runs.filter (·.target = target) =
      (w.runs.filter (·.target = target)).map fun r => if r.target = t then { r with session := r.session.stop } else r := by
    rw [modifySession, List.filter_map]
    exact congrArg (List.map _ ·) (congrArg (List.filter · w.runs) (funext fun r => by rw [Function.comp, hkept]))
  split
  · exact congrArg (fun runs => { w.only target with runs }) hruns
  · rename_i ht
    refine congrArg (fun runs => { w.only target with runs }) (hruns.trans ?_)
    refine (List.map_congr_left fun r hr => if_neg fun he => ht ?_).trans (List.map_id _)
    exact he.symm.trans (by simpa using (List.mem_filter.mp hr).2)

theorem step_only_eq_none (hl : w.launcher.Separate target) (h : w.step? = none) : (w.only target).step? = none := by
  obtain ⟨hprobe, hloop, hsession⟩ := step_eq_none.mp h
  refine step_eq_none.mpr ⟨by rw [probeStep_only, hprobe]; rfl, by rw [loopStep_only, hloop]; rfl, ?_⟩
  refine List.findSome?_eq_none_iff.mpr fun r hr => ?_
  obtain ⟨hmem, ht⟩ := List.mem_filter.mp hr
  rw [runStep_only hl (by simpa using ht), List.findSome?_eq_none_iff.mp hsession r hmem]
  rfl

theorem due_only {d : Nat} (h : d ∈ (w.only target).due) : d ∈ w.due := by
  rcases List.mem_append.mp h with h | h
  · exact List.mem_append_left _ h
  · obtain ⟨r, hr, hd⟩ := List.mem_flatMap.mp h
    exact List.mem_append_right _ (List.mem_flatMap.mpr ⟨r, (List.mem_filter.mp hr).1, hd⟩)

end Watch

namespace Service

variable {d : Deed} {ds : List Deed}

theorem goTo_only (s : Service) (w? : Option Watch) :
    (s.goTo w?).only target = (s.only target).goTo (w?.map (·.only target)) := by
  cases w? <;> rfl

theorem change_only (c : Change) : (s.change c).1.only target = ((s.only target).change c).1 := by
  have hstore : (s.only target).watch.store = s.watch.store := rfl
  have hfiles : (s.only target).watch.files = s.watch.files := rfl
  have hclock : (s.only target).watch.clock = s.watch.clock := rfl
  unfold change
  rw [hstore, hfiles, hclock]
  cases s.watch.store.change s.watch.files s.watch.clock c <;> rfl

/-- A session that is started takes the place of one of its target and stands for no other. -/
theorem started_only (r : SessionRun) (runs : List SessionRun) :
    (runs.filter (·.target != r.target) ++ [r]).filter (·.target = target) =
      if r.target = target then [r] else runs.filter (·.target = target) := by
  rw [List.filter_append, List.filter_filter, List.filter_singleton]
  split
  · rename_i ht
    rw [List.filter_eq_nil_iff.mpr fun x _ => by simp [ht]]
    simp [ht]
  · rename_i ht
    have hsame : (fun x : SessionRun => decide (x.target = target) && (x.target != r.target)) =
        fun x => decide (x.target = target) := by
      funext x
      by_cases hx : x.target = target
      · simp [hx, Ne.symm ht]
      · simp [hx]
    rw [hsame]
    simp [ht]

theorem startSession_only : (s.startSession target).1.only target = ((s.only target).startSession target).1 ∧
    (s.startSession target).2 = ((s.only target).startSession target).2 := by
  have hany : ((s.only target).watch.run? target).any (!·.isFinished) = (s.watch.run? target).any (!·.isFinished) :=
    congrArg (Option.any (!·.isFinished)) Watch.run?_only
  cases h : (s.watch.run? target).any (!·.isFinished) with
  | true =>
    rw [Stage.startSession_of_active h, Stage.startSession_of_active (hany.trans h)]
    exact ⟨rfl, rfl⟩
  | false =>
    rw [Stage.startSession_of_free h, Stage.startSession_of_free (hany.trans h)]
    let r : SessionRun := { session := Session.ofTarget s.config.sessionOptions target s.watch.clock }
    have hleft : (s.watch.runs.filter (·.target != target) ++ [r]).filter (·.target = target) = [r] :=
      (started_only r s.watch.runs).trans (if_pos rfl)
    have hright : (s.only target).watch.runs.filter (·.target != target) = [] :=
      List.filter_eq_nil_iff.mpr fun x hx => by simpa using (List.mem_filter.mp hx).2
    refine ⟨congrArg (fun runs => { s.only target with watch := { s.watch.only target with runs } }) ?_, rfl⟩
    rw [hright]
    exact hleft

theorem only_of_startSession {t : String} (ht : t ≠ target) : (s.startSession t).1.only target = s.only target := by
  cases h : (s.watch.run? t).any (!·.isFinished) with
  | true => rw [Stage.startSession_of_active h]
  | false =>
    rw [Stage.startSession_of_free h]
    let r : SessionRun := { session := Session.ofTarget s.config.sessionOptions t s.watch.clock }
    have hruns : (s.watch.runs.filter (·.target != t) ++ [r]).filter (·.target = target) =
        s.watch.runs.filter (·.target = target) := (started_only r s.watch.runs).trans (if_neg ht)
    exact congrArg (fun runs => { s.only target with watch := { s.watch.only target with runs } }) hruns

/-! One thing after another -/

/-- What the sessions of other targets do changes nothing but them. -/
theorem only_of_others (h : d.isOthers target = true) : (s.perform d).only target = s.only target := by
  cases d with
  | start t => exact only_of_startSession (by simpa [Deed.isOthers] using h)
  | ask t =>
    have ht : t ≠ target := by simpa [Deed.isOthers] using h
    exact congrArg (fun w => { s with watch := w }) ((Watch.modifySession_only s.watch t).trans (if_neg ht))
  | go t =>
    have ht : t ≠ target := by simpa [Deed.isOthers] using h
    rw [perform]
    cases hg : (s.watch.run? t).bind s.watch.runStep? with
    | none => rfl
    | some w =>
      obtain ⟨r, hr, hs⟩ := Option.bind_eq_some_iff.mp hg
      have hrt : r.target = t := Stage.target_of_run? hr
      exact congrArg (fun w => { s with watch := w }) (Watch.only_of_runStep (hrt ▸ ht) hs)
  | _ => cases h

/-- All else comes to the same without them. -/
theorem perform_only (hl : s.watch.launcher.Separate target) (h : d.isOthers target = false) :
    (s.perform d).only target = (s.only target).perform d := by
  cases d with
  | change c => exact change_only c
  | reenable id =>
    simp only [perform]
    rw [show (s.only target).watch.store = s.watch.store from rfl]
    split
    · rename_i hr
      exact congrArg (fun w => { s with watch := w })
        (Watch.note_only fun e he => concerns_of_healthy (Watch.healthy_reenable hr e he))
    · rfl
  | send es dry =>
    rw [perform, perform, goTo_only, Option.map_map]
    refine congrArg (s.only target).goTo ?_
    rw [show (s.only target).watch = s.watch.only target from rfl, Watch.startRound_only, Option.map_map]
    rfl
  | land key =>
    rw [perform, perform, goTo_only]
    refine congrArg (s.only target).goTo ?_
    rw [show (s.only target).watch.round? key = s.watch.round? key from rfl]
    cases s.watch.round? key with
    | none => rfl
    | some r => exact Watch.land_only.symm
  | loop =>
    rw [perform, perform, goTo_only]
    exact congrArg (s.only target).goTo Watch.loopStep_only.symm
  | startLoop =>
    simp only [perform, startLoop]
    rw [show (s.only target).watch.loop = s.watch.loop from rfl]
    split <;> rfl
  | stopLoop =>
    simp only [perform, stopLoop]
    rw [show (s.only target).watch.loop = s.watch.loop from rfl]
    split <;> rfl
  | start t =>
    obtain rfl : t = target := by simpa [Deed.isOthers] using h
    exact startSession_only.1
  | ask t =>
    obtain rfl : t = target := by simpa [Deed.isOthers] using h
    exact congrArg (fun w => { s with watch := w }) ((Watch.modifySession_only s.watch t).trans (if_pos rfl))
  | go t =>
    obtain rfl : t = target := by simpa [Deed.isOthers] using h
    rw [perform, perform, goTo_only]
    refine congrArg (s.only t).goTo ?_
    rw [show (s.only t).watch = s.watch.only t from rfl, Watch.run?_only]
    cases hr : s.watch.run? t with
    | none => rfl
    | some r => exact (Watch.runStep_only hl (Stage.target_of_run? hr)).symm
  | drop | pass | around => rfl

theorem separate_perform (hl : s.watch.launcher.Separate target) (hd : ∀ l ∈ d.launcher?, Launcher.Separate l target) :
    (s.perform d).watch.launcher.Separate target := by
  rw [launcher_perform]
  cases h : d.launcher? with
  | none => exact hl
  | some launcher => exact hd launcher h

theorem without_of_others (h : d.isOthers target = true) : without target (d :: ds) = without target ds := by
  simp [without, h]

theorem without_cons (h : d.isOthers target = false) : without target (d :: ds) = d :: without target ds := by
  simp [without, h]

/-- A run without the sessions of other targets comes to what is left of the run without them. -/
theorem run_only (hl : s.watch.launcher.Separate target) (hd : ∀ d ∈ ds, ∀ l ∈ d.launcher?, Launcher.Separate l target) :
    (s.run ds).only target = (s.only target).run (without target ds) := by
  induction ds generalizing s with
  | nil => rfl
  | cons d ds ih =>
    have hrest := ih (separate_perform hl (hd d List.mem_cons_self)) fun x hx => hd x (List.mem_cons_of_mem d hx)
    cases ho : d.isOthers target with
    | true =>
      rw [without_of_others ho, ← only_of_others (s := s) ho]
      exact hrest
    | false =>
      rw [without_cons ho]
      exact hrest.trans (by rw [perform_only hl ho]; rfl)

/-! When it happens -/

theorem Deed.Timely.only (hl : s.watch.launcher.Separate target) (h : d.Timely s) : d.Timely (s.only target) := by
  cases d with
  | pass now =>
    obtain ⟨hrest, hle, hdue⟩ := h
    exact ⟨Watch.step_only_eq_none hl hrest, hle, fun d hd => hdue d (Watch.due_only hd)⟩
  | _ => exact h

theorem Timely.only (hl : s.watch.launcher.Separate target) (hd : ∀ d ∈ ds, ∀ l ∈ d.launcher?, Launcher.Separate l target) (h : s.Timely ds) :
    (s.only target).Timely (without target ds) := by
  induction ds generalizing s with
  | nil => trivial
  | cons d ds ih =>
    obtain ⟨hfirst, h⟩ := h
    have hrest := ih (separate_perform hl (hd d List.mem_cons_self)) (fun x hx => hd x (List.mem_cons_of_mem d hx)) h
    cases ho : d.isOthers target with
    | true =>
      rw [without_of_others ho, ← only_of_others (s := s) ho]
      exact hrest
    | false =>
      rw [without_cons ho]
      refine ⟨hfirst.only hl, ?_⟩
      rw [← perform_only hl ho]
      exact hrest

/-! The sessions of a target, with and without others -/

/-- What was reported of a target's sessions, and when. -/
def reported (s : Service) (target : String) : List (Nat × Event) :=
  s.watch.journal.events.filter fun x => (x.2.entered? target).isSome

/-- What the sessions of a target launched, terminated and killed, and when. -/
def called (s : Service) (target : String) : List (Nat × CaptureCall) :=
  s.watch.journal.captures.filter fun x => x.2.target = target

/-- The sessions of a target are as they are if those of all others are left out. -/
structure Undisturbed (target : String) (s : Service) (ds : List Deed) : Prop where
  /-- Without the others nobody else has a session. -/
  alone : ∀ r ∈ ((s.only target).run (without target ds)).watch.runs, r.target = target
  /-- The same is reported of them at the same times. -/
  reported : ((s.only target).run (without target ds)).reported target = (s.run ds).reported target
  /-- They call for the same at the same times. -/
  called : ((s.only target).run (without target ds)).called target = (s.run ds).called target
  /-- The one that is there is the same. -/
  session : ((s.only target).run (without target ds)).watch.run? target = (s.run ds).watch.run? target
  /-- A call that starts one is answered the same. -/
  answers : ∀ before after, ds = before ++ .start target :: after →
    (((s.only target).run (without target before)).startSession target).2 = ((s.run before).startSession target).2
  /-- The registry holds the same at all times. -/
  registry : ∀ before after, ds = before ++ after →
    ((s.only target).run (without target before)).watch.store.registry = (s.run before).watch.store.registry
  /-- What happens in time still does. -/
  timely : s.Timely ds → (s.only target).Timely (without target ds)

theorem reported_only (s : Service) : (s.only target).reported target = s.reported target := by
  unfold reported
  change (s.watch.journal.events.filter (·.2.concerns target)).filter _ = _
  rw [List.filter_filter]
  refine List.filter_congr fun x _ => ?_
  cases h : (x.2.entered? target).isSome with
  | true => simp [concerns_of_entered h]
  | false => rfl

theorem called_only (s : Service) : (s.only target).called target = s.called target := by
  unfold called
  change (s.watch.journal.captures.filter (·.2.target = target)).filter _ = _
  rw [List.filter_filter]
  exact List.filter_congr fun x _ => by simp

/-- Sessions do not disturb each other: whatever else happens to a service, the sessions of a target report, launch,
terminate and kill the same at the same times if all those of other targets are left out, as long as what is launched
for the target behaves the same whatever was launched for others. Everything that calls come to is such a run. -/
theorem sessions_undisturbed (hl : s.watch.launcher.Separate target) :
    (∀ ds : List Deed, (∀ d ∈ ds, ∀ l ∈ d.launcher?, Launcher.Separate l target) → Undisturbed target s ds) ∧
    ∀ config (cs : List Call), Arises config s →
      ∃ ds : List Deed, s.Timely ds ∧ s.run ds = cs.foldl after s ∧ Undisturbed target s ds := by
  have hall : ∀ ds : List Deed, (∀ d ∈ ds, ∀ l ∈ d.launcher?, Launcher.Separate l target) →
      Undisturbed target s ds := by
    intro ds hd
    have hrun : ∀ before after, ds = before ++ after →
        (s.only target).run (without target before) = (s.run before).only target := by
      rintro before after rfl
      exact (run_only hl fun d hmem => hd d (List.mem_append_left _ hmem)).symm
    have hwhole := hrun ds [] (List.append_nil ds).symm
    constructor
    case alone =>
      rw [hwhole]
      intro r hr
      simpa using (List.mem_filter.mp hr).2
    case reported => rw [hwhole, reported_only]
    case called => rw [hwhole, called_only]
    case session => rw [hwhole, only, Watch.run?_only]
    case answers =>
      intro before after he
      rw [hrun before _ he]
      exact startSession_only.2.symm
    case registry =>
      intro before after he
      rw [hrun before after he]
      rfl
    case timely => exact Timely.only hl hd
  refine ⟨hall, fun config cs ha => ?_⟩
  obtain ⟨ds, hown, ht, hrun⟩ := exists_deeds ha cs
  refine ⟨ds, ht, hrun, hall ds fun d hd l h => ?_⟩
  rw [hown d hd] at h
  cases h

/-- Two sessions that fail at their first attempts and go on in turn. The launches of the one are where they are without
the other. -/
theorem sessions_undisturbed_retry : ∃ (s : Service) (ds : List Deed), s.watch.launcher.Separate "a" ∧
    ((s.run ds).called "b").length = 2 ∧
    ((s.only "a").run (without "a" ds)).called "a" =
      [(0, .launch { target := "a", proxy := none, attempt := 1 }),
        (5000, .launch { target := "a", proxy := none, attempt := 2 })] := by
  let launcher : Launcher := fun before l =>
    if (before.filter (·.target = l.target)).isEmpty then { launchError := some "busy" } else {}
  let s : Service := { config := {}, watch := { clock := default, launcher } }
  let ds : List Deed :=
    [.start "a", .start "b", .go "b", .go "a", .go "a", .go "b", .pass 5000, .go "b", .go "a"]
  have hl : s.watch.launcher.Separate "a" := by
    intro before l ht
    simp [s, launcher, ht]
  have hsame : Undisturbed "a" s ds := (sessions_undisturbed hl).1 ds (by simp [ds, Deed.launcher?])
  refine ⟨s, ds, hl, ?_, hsame.called.trans ?_⟩
  · decide +kernel
  · decide +kernel

end Service
end ProxyWatch
