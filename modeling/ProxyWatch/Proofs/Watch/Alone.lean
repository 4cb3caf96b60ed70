import ProxyWatch.Proofs.Session.Running
import ProxyWatch.Proofs.Session.Ticking
import ProxyWatch.Watch

/-! A session that is all the program has at work. As time passes the journal says what the session's plan has. -/
namespace ProxyWatch

/-! What is seen, as the journal has it -/

def Mark.event? : Mark → Option Event
  | .report e => some e
  | .call _ => none

def Mark.call? : Mark → Option CaptureCall
  | .report _ => none
  | .call c => some c

namespace Plan

def events (p : Plan) : List (Nat × Event) := p.filterMap fun m => m.2.event?.map (m.1, ·)

def calls (p : Plan) : List (Nat × CaptureCall) := p.filterMap fun m => m.2.call?.map (m.1, ·)

end Plan

/-- The journal goes on with what is seen. -/
def Journal.followedBy (j : Journal) (p : Plan) : Journal :=
  { j with events := j.events ++ p.events, captures := j.captures ++ p.calls }

section
variable {j : Journal} {p q : Plan}

theorem followedBy_nil : j.followedBy [] = j := by
  simp [Journal.followedBy, Plan.events, Plan.calls]

theorem followedBy_append : j.followedBy (p ++ q) = (j.followedBy p).followedBy q := by
  simp [Journal.followedBy, Plan.events, Plan.calls]

theorem events_marks (now : Nat) (trace : SessionTrace) :
    Plan.events (Scenario.marks now trace) = trace.events.map (now, ·) := by
  have hcalls : (trace.calls.map fun c => (now, Mark.call c)).filterMap (fun m => m.2.event?.map (m.1, ·)) = [] := by
    simp [List.filterMap_map, Mark.event?]
  rw [Plan.events, Scenario.marks, List.filterMap_append, hcalls, List.append_nil, List.filterMap_map]
  exact congrFun List.filterMap_eq_map trace.events

theorem calls_marks (now : Nat) (trace : SessionTrace) :
    Plan.calls (Scenario.marks now trace) = trace.calls.map (now, ·) := by
  have hevents : (trace.events.map fun e => (now, Mark.report e)).filterMap (fun m => m.2.call?.map (m.1, ·)) = [] := by
    simp [List.filterMap_map, Mark.call?]
  rw [Plan.calls, Scenario.marks, List.filterMap_append, hevents, List.nil_append, List.filterMap_map]
  exact congrFun List.filterMap_eq_map trace.calls

/-- What a session leaves behind is noted. -/
theorem journal_noted (w : Watch) (trace : SessionTrace) :
    ((w.note trace.events).noteCalls trace.calls).journal = w.journal.followedBy (Scenario.marks w.now trace) := by
  rw [Journal.followedBy, events_marks, calls_marks]
  rfl

end

/-! The launches of a step -/

def CaptureCall.launch? : CaptureCall → Option Launch
  | .launch l => some l
  | _ => none

/-- The number of launches among some calls. -/
def launchesIn (cs : List CaptureCall) : Nat := (cs.filterMap CaptureCall.launch?).length

namespace SessionRun

variable {launcher : Launch → CaptureScript} {now : Nat} {clock : Timestamp} {es : List Endpoint} {r : SessionRun}
  {acts : List SessionAct} {x y : SessionRun × SessionTrace} {a : SessionAct}

theorem launchesIn_perform : launchesIn (perform launcher now x a).2.calls =
    launchesIn x.2.calls + if a.isLaunch then 1 else 0 := by
  cases a with
  | launch => simp [perform, launchesIn, CaptureCall.launch?, SessionAct.isLaunch]
  | keep | terminate | kill =>
    simp only [perform]
    split <;> simp [launchesIn, CaptureCall.launch?, SessionAct.isLaunch]
  | report | display | abandon | release => rfl

theorem launchesIn_foldl : launchesIn (acts.foldl (perform launcher now) x).2.calls =
    launchesIn x.2.calls + acts.countP SessionAct.isLaunch := by
  induction acts generalizing x with
  | nil => rfl
  | cons a acts ih =>
    rw [List.foldl_cons, ih, launchesIn_perform, List.countP_cons]
    omega

/-- What a step comes to: its session makes a step, and what is launched is counted as an attempt. -/
theorem step_counts (h : r.step launcher now clock es = some y) : y.1.target = r.target ∧
    y.1.session.load < r.session.load ∧
    (r.session.record.attempt + launchesIn y.2.calls = y.1.session.record.attempt ∨ y.1.session.phase = .over) := by
  unfold step at h
  split at h
  · obtain ⟨⟨s, acts⟩, hstep, rfl⟩ := Option.map_eq_some_iff.mp h
    have hs : Session.Step r.session (r.view now clock es) s acts := Session.step_cases hstep
    have hlaunches : launchesIn (acts.foldl (perform launcher now) ({ r with session := s }, {})).2.calls =
        acts.countP SessionAct.isLaunch := launchesIn_foldl.trans (Nat.zero_add _)
    rw [target, session_foldl, hlaunches]
    exact ⟨hs.target_eq, hs.load_lt, hs.launches⟩
  · cases h

end SessionRun

namespace Watch

open Scenario

/-- There is one session, which has not begun, and nothing else is at work. -/
structure Awaits (x : Scenario) (w : Watch) : Prop where
  runs : ∃ clock, w.runs = [(x.beginning w.now clock).run]
  rounds : w.rounds = []
  loop : w.loop = none
  launches : w.launches = []
  launcher : ∀ before l, l.attempt = before.length + 1 → w.launcher before l = x.script l.attempt
  endpoints : ∀ n, x.seen n = w.store.registry.entries

/-- There is one session, and since another journal all that was noted is what was seen of it. -/
structure Alone (x : Scenario) (first : Journal) (w : Watch) (s : Sighting) : Prop where
  runs : w.runs = [s.run]
  now : w.now = s.now
  rounds : w.rounds = []
  loop : w.loop = none
  launches : w.launches.length = s.run.session.record.attempt ∨ s.run.session.phase = .over
  launcher : ∀ before l, l.attempt = before.length + 1 → w.launcher before l = x.script l.attempt
  endpoints : ∀ n, x.seen n = w.store.registry.entries
  journal : w.journal = first.followedBy s.seen

variable {x : Scenario} {first : Journal} {w w' : Watch} {s : Sighting}

theorem Awaits.alone (h : Awaits x w) : ∃ clock, Alone x w.journal w (x.beginning w.now clock) := by
  obtain ⟨clock, hruns⟩ := h.runs
  refine ⟨clock, hruns, rfl, h.rounds, h.loop, .inl ?_, h.launcher, h.endpoints, followedBy_nil.symm⟩
  rw [h.launches]
  rfl

theorem Alone.step_eq (h : Alone x first w s) : w.step? = w.runStep? s.run := by
  simp [step?, probeStep?, loopStep?, sessionStep?, h.rounds, h.loop, h.runs]

/-- Each step is one of the session, which comes nearer to its end. -/
theorem Alone.act (h : Alone x first w s) (hw : w.step? = some w') :
    ∃ t, Tick x s t ∧ Alone x first w' t ∧ t.now = s.now ∧ t.run.session.load < s.run.session.load := by
  rw [h.step_eq] at hw
  obtain ⟨y, hy, rfl⟩ := Option.map_eq_some_iff.mp hw
  obtain ⟨htarget, hload, hcount⟩ := SessionRun.step_counts hy
  have hattempt : w.launches.length = s.run.session.record.attempt := by
    refine h.launches.resolve_right fun hp => ?_
    rw [SessionRun.step, Session.step_of_done (.inl hp)] at hy
    simp at hy
  rw [h.now, ← h.endpoints (upcoming s.run)] at hy
  refine ⟨_, .act (fun l hl => ?_) hy, ?_, rfl, hload⟩
  · rw [h.launcher w.launches l (by rw [hl, hattempt]; rfl), hl]
  constructor
  case runs => simp [h.runs, noteCalls, note]
  case now => exact h.now
  case rounds => exact h.rounds
  case loop => exact h.loop
  case launches =>
    refine hcount.imp (fun hc => ?_) id
    rw [← hc, ← hattempt]
    exact (List.length_append ..).trans (by rw [List.length_reverse, Nat.add_comm]; rfl)
  case launcher => exact h.launcher
  case endpoints => exact h.endpoints
  case journal =>
    change ((w.note y.2.events).noteCalls y.2.calls).journal = _
    rw [journal_noted, h.journal, h.now, followedBy_append]

/-- A session that does nothing is at rest. -/
theorem Alone.atRest (h : Alone x first w s) (hw : w.step? = none) : s.AtRest := by
  rw [h.step_eq, runStep?, Option.map_eq_none_iff, h.now] at hw
  exact ⟨_, _, _, hw⟩

theorem Alone.settleWithin (h : Alone x first w s) {n : Nat} (hn : s.run.session.load < n) :
    ∃ t, Ticks x s t ∧ Alone x first (settleWithin n w) t ∧ t.now = s.now ∧ t.AtRest := by
  induction n generalizing w s with
  | zero => exact absurd hn (Nat.not_lt_zero _)
  | succ n ih =>
    unfold Watch.settleWithin
    cases hw : w.step? with
    | none => exact ⟨s, .refl, h, rfl, h.atRest hw⟩
    | some w' =>
      obtain ⟨t, ht, h', hnow, hload⟩ := h.act hw
      obtain ⟨u, hu, hu', hnow', hrest⟩ := ih h' (Nat.lt_of_lt_of_le hload (Nat.le_of_lt_succ hn))
      exact ⟨u, .head ht hu, hu', hnow'.trans hnow, hrest⟩

/-- The bound on the steps is large enough for a session to come to rest. -/
theorem Alone.settle (h : Alone x first w s) :
    ∃ t, Ticks x s t ∧ Alone x first w.settle t ∧ t.now = s.now ∧ t.AtRest := by
  refine h.settleWithin ?_
  simp only [load, h.runs, h.rounds, List.foldl_nil, List.foldl_cons]
  omega

theorem Alone.next_eq (h : Alone x first w s) : w.next? = (s.run.due.filter (s.now < ·)).min? := by
  simp [next?, h.rounds, h.loop, h.runs, h.now]

theorem Alone.of_next_some {d : Nat} (h : Alone x first w s) (hd : w.next? = some d) :
    s.now < d ∧ ∀ t ∈ s.run.due, s.now < t → d ≤ t := by
  rw [h.next_eq, List.min?_eq_some_iff] at hd
  simp only [List.mem_filter, decide_eq_true_eq, and_imp] at hd
  exact ⟨hd.1.2, hd.2⟩

theorem Alone.of_next_none (h : Alone x first w s) (hd : w.next? = none) : ∀ t ∈ s.run.due, ¬ s.now < t := by
  rw [h.next_eq, List.min?_eq_none_iff, List.filter_eq_nil_iff] at hd
  simpa using hd

/-- Time passes to the next instant at which something is due, or to one before. -/
theorem Alone.pass (h : Alone x first w s) (hrest : s.AtRest) {now : Nat} (hle : s.now ≤ now)
    (hdue : ∀ t ∈ s.run.due, s.now < t → now ≤ t) :
    Tick x s { s with now := now } ∧ Alone x first { w with now := now } { s with now := now } :=
  ⟨.pass hrest hle hdue, { h with now := rfl }⟩

/-- A session that has come to an instant up to which nothing more is due. -/
structure Done (x : Scenario) (s : Sighting) (last : Nat) : Prop where
  rest : s.AtRest
  le : s.now ≤ last
  due : ∀ t ∈ s.run.due, s.now < t → last < t

theorem Alone.advanceFrom {now last : Nat} (h : Alone x first { w with now := now } s) (hle : now ≤ last) :
    ∃ t, Ticks x s t ∧ Done x t last ∧ (advanceFrom now last w).journal = first.followedBy t.seen := by
  fun_induction Watch.advanceFrom now last w generalizing s with
  | case1 now w w₁ d hnext hbounds =>
    rename_i ih
    obtain ⟨t, ht, halone, hnow, hrest⟩ := h.settle
    obtain ⟨hlt, hdue⟩ := halone.of_next_some hnext
    obtain ⟨hpass, halone⟩ := halone.pass hrest hlt.le hdue
    obtain ⟨u, hu, hdone, hjournal⟩ := ih halone hbounds.2
    exact ⟨u, (ht.tail hpass).trans hu, hdone, hjournal⟩
  | case2 now w w₁ d hnext =>
    rename_i hbounds
    obtain ⟨t, ht, halone, hnow, hrest⟩ := h.settle
    obtain rfl : now = t.now := h.now.trans hnow.symm
    obtain ⟨hlt, hdue⟩ := halone.of_next_some hnext
    have hlast : last < d := Nat.lt_of_not_le fun hd => hbounds ⟨hlt, hd⟩
    exact ⟨t, ht, ⟨hrest, hle, fun d' hd' hlt' => Nat.lt_of_lt_of_le hlast (hdue d' hd' hlt')⟩, halone.journal⟩
  | case3 now w w₁ =>
    rename_i hnext
    obtain ⟨t, ht, halone, hnow, hrest⟩ := h.settle
    obtain rfl : now = t.now := h.now.trans hnow.symm
    exact ⟨t, ht, ⟨hrest, hle, fun d hd hlt => absurd hlt (halone.of_next_none hnext d hd)⟩, halone.journal⟩

/-- The journal of a program that has but one session to run follows the session's plan. -/
theorem Awaits.journal_advance (hv : x.config.validate = .ok ()) (h : Awaits x w) (ms : Nat) :
    (w.advance ms).journal = w.journal.followedBy ((x.plan w.now).upTo (w.now + ms)) := by
  obtain ⟨clock, halone⟩ := h.alone
  obtain ⟨t, ht, hdone, hjournal⟩ := halone.advanceFrom (Nat.le_add_right w.now ms)
  have hplan := (onPlan_ticks hv (onPlan_beginning x w.now clock) ht).seen_eq hdone.rest hdone.le hdone.due
  rw [advance, hjournal, hplan]

end Watch

open Scenario

/-- A session that nobody stops does everything at the instant at which its plan has it: whatever the captures and the
known endpoints are like, when it has nothing left to do it has done all that the plan has up to then and no more, and
the journal of a program that runs no other session grows by just that. There is a pause after every failure. -/
theorem Scenario.session_punctual {x : Scenario} (hv : x.config.validate = .ok ()) :
    (∀ n, (x.pause? n).isSome) ∧
    (∀ start clock s, Ticks x (x.beginning start clock) s → s.AtRest → s.seen = (x.plan start).upTo s.now) ∧
    ∀ w ms, Watch.Awaits x w → (w.advance ms).journal = w.journal.followedBy ((x.plan w.now).upTo (w.now + ms)) := by
  refine ⟨fun n => ?_, fun _ _ _ ht hrest => seen_eq_plan hv ht hrest, fun _ ms h => h.journal_advance hv ms⟩
  obtain ⟨d, hd, -⟩ := Config.exists_delay hv n
  simp [pause?, hd]

/-- A capture that exits before it is confirmed has failed, although its code is 0. The one after the pause is
confirmed. -/
theorem Scenario.session_punctual_early :
    ∃ (x : Scenario) (w : Watch), x.config.validate = .ok () ∧ Watch.Awaits x w ∧
      (w.advance 8000).journal.events = [
        (0, .sessionChanged "t" none .starting 1 (some .direct) none),
        (7, .sessionChanged "t" (some .starting) .retrying 1 (some .direct)
          (some "capture process exited during startup: exit code 0")),
        (5007, .sessionChanged "t" (some .retrying) .starting 2 (some .direct) none),
        (7010, .sessionChanged "t" (some .starting) .running 2 (some .direct) none)] := by
  let config : Config := { health := { probeUrl := "http://[::1]/" } }
  let first : CaptureScript := { launchTime := some 3, lifetime := some 4, code := some 0 }
  let further : CaptureScript := { launchTime := some 3 }
  let x : Scenario := { config, target := "t", script := fun n => [first].getD (n - 1) further, seen := fun _ => [] }
  let w : Watch :=
    { clock := default, runs := [(x.beginning 0 default).run], launcher := .ofScripts [first] further }
  have hv : x.config.validate = .ok () := by decide +kernel
  have hw : Watch.Awaits x w := by
    refine ⟨⟨default, rfl⟩, rfl, rfl, rfl, fun before l hl => ?_, fun _ => rfl⟩
    simp [w, x, Launcher.ofScripts, hl]
  refine ⟨x, w, hv, hw, ?_⟩
  rw [(Scenario.session_punctual hv).2.2 w 8000 hw]
  clear hv hw
  subst w x first further config
  decide +kernel

end ProxyWatch
