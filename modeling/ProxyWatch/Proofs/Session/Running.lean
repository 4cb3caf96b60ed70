import ProxyWatch.Proofs.Session.Holding
import ProxyWatch.Session.Run

/-! Runs of a session with captures. Whatever the launcher starts and however the captures behave, a run reports,
displays and calls what a course of its session does. -/
namespace ProxyWatch

/-- The call that an act makes. -/
def SessionAct.call? (target : String) : SessionAct → Option CaptureCall
  | .launch proxy attempt => some (.launch { target, proxy, attempt })
  | .terminate => some (.terminate target)
  | .kill => some (.kill target)
  | _ => none

/-- The act needs nothing to be held. -/
def SessionAct.Free : SessionAct → Prop
  | .keep | .terminate | .kill => False
  | _ => True

namespace Hold

/-- The act can be carried out while this is held. -/
def Allows (h : Hold) : SessionAct → Prop
  | .keep => ∃ script returns, h = .launch script returns
  | .terminate | .kill => ∃ c, h = .capture c
  | _ => True

/-- What a session in the phase relies on is held. -/
def Fits (h : Hold) : Phase → Prop
  | .launching _ => ∃ script returns, h = .launch script returns
  | .confirming _ | .running | .ending _ | .killing => ∃ c, h = .capture c
  | _ => True

end Hold

theorem Session.Step.target_eq {s s' : Session} {v : SessionView} {acts : List SessionAct}
    (h : Session.Step s v s' acts) : s'.record.target = s.record.target := by
  cases h <;> rfl

namespace SessionRun

section
variable {launcher : Launch → CaptureScript} {now : Nat} {x : SessionRun × SessionTrace}
  {a : SessionAct} {acts : List SessionAct} {p : Option SessionState} {r : SessionRecord}

/-! One act -/

@[simp] theorem perform_session : (perform launcher now x a).1.session = x.1.session := by
  unfold perform
  split <;> first | rfl | (split <;> rfl)

@[simp] theorem perform_shown : (perform launcher now x a).1.shown = a.shown x.1.shown := by
  unfold perform SessionAct.shown
  split <;> first | rfl | (split <;> rfl)

theorem perform_events :
    (perform launcher now x a).2.events = x.2.events ++ a.event?.toList := by
  cases a with
  | report e => rfl
  | keep | terminate | kill =>
    simp only [perform, SessionAct.event?]
    split <;> simp
  | _ => simp [perform, SessionAct.event?]

theorem perform_calls (h : x.1.hold.Allows a) :
    (perform launcher now x a).2.calls = x.2.calls ++ (a.call? x.1.target).toList := by
  cases a with
  | keep =>
    obtain ⟨script, returns, hx⟩ := h
    simp [perform, hx, SessionAct.call?]
  | terminate | kill =>
    obtain ⟨c, hx⟩ := h
    simp [perform, hx, SessionAct.call?]
  | _ => simp [perform, SessionAct.call?]

theorem allows_of_free {h : Hold} (ha : a.Free) : h.Allows a := by
  cases a with
  | keep | terminate | kill => exact ha.elim
  | _ => exact ha

theorem target_perform : (perform launcher now x a).1.target = x.1.target := by
  rw [target, perform_session, target]

/-! One act after another -/

theorem session_foldl : (acts.foldl (perform launcher now) x).1.session = x.1.session := by
  induction acts generalizing x with
  | nil => rfl
  | cons a acts ih => rw [List.foldl_cons, ih, perform_session]

theorem shown_foldl :
    (acts.foldl (perform launcher now) x).1.shown = displayed x.1.shown acts := by
  induction acts generalizing x with
  | nil => rfl
  | cons a acts ih =>
    rw [List.foldl_cons, ih, perform_shown]
    rfl

theorem events_foldl : (acts.foldl (perform launcher now) x).2.events =
    x.2.events ++ acts.filterMap SessionAct.event? := by
  induction acts generalizing x with
  | nil => simp
  | cons a acts ih =>
    rw [List.foldl_cons, ih, perform_events]
    cases h : a.event? <;> simp [h]

/-- Acts that need nothing make all their calls. -/
theorem calls_foldl (h : ∀ a ∈ acts, a.Free) : (acts.foldl (perform launcher now) x).2.calls =
    x.2.calls ++ acts.filterMap (SessionAct.call? x.1.target) := by
  induction acts generalizing x with
  | nil => simp
  | cons a acts ih =>
    have ha : x.1.hold.Allows a := allows_of_free (h a (by simp))
    rw [List.foldl_cons, ih fun b hb => h b (by simp [hb]), perform_calls ha, target_perform]
    cases hc : a.call? x.1.target <;> simp [hc]

/-! The acts of a step -/

variable {s s' : Session} {v : SessionView}

theorem free_announcement : ∀ a ∈ announcement p r, a.Free := by
  simp [announcement, SessionAct.Free]

theorem free_failure {e : ProcessError} (h : Session.Failure s v acts e) : ∀ a ∈ acts, a.Free := by
  cases h <;> simp [SessionAct.Free]

theorem free_stop (h : Session.Stop s v acts) : ∀ a ∈ acts, a.Free := by
  cases h <;> simp [SessionAct.Free]

/-- What a step needs is held. -/
theorem step_allowed {h : Hold} (hs : Session.Step s v s' acts) (hf : h.Fits s.phase) :
    (∃ a, acts = [a] ∧ h.Allows a) ∨ ∀ a ∈ acts, a.Free := by
  cases hs with
  | kept hp =>
    rw [hp] at hf
    exact .inl ⟨_, rfl, hf⟩
  | shutDown hp =>
    rcases hp with hp | ⟨_, hp⟩ <;> rw [hp] at hf <;> exact .inl ⟨_, rfl, hf⟩
  | killed hp =>
    rw [hp] at hf
    exact .inl ⟨_, rfl, hf⟩
  | refused | launched | confirmed => exact .inr (by simp [announcement, SessionAct.Free])
  | rested _ hq | vanished _ hq =>
    exact .inr fun a ha => (List.mem_append.mp ha).elim (free_failure hq a) (free_announcement a)
  | spent _ hq =>
    refine .inr fun a ha => (List.mem_append.mp ha).elim (free_failure hq a) fun ha => ?_
    exact (List.mem_append.mp ha).elim (free_announcement a) (free_announcement a)
  | stopped hq =>
    exact .inr fun a ha => (List.mem_append.mp ha).elim (free_stop hq a) (free_announcement a)

theorem step_calls (hs : Session.Step s v s' acts) (hf : x.1.hold.Fits s.phase) :
    (acts.foldl (perform launcher now) x).2.calls =
      x.2.calls ++ acts.filterMap (SessionAct.call? x.1.target) := by
  rcases step_allowed hs hf with ⟨a, rfl, ha⟩ | ha
  · rw [List.foldl_cons, List.foldl_nil, perform_calls ha]
    cases hc : a.call? x.1.target <;> simp [hc]
  · exact calls_foldl ha

/-- A step leaves to be held what the next phase relies on. -/
theorem step_fits (hs : Session.Step s v s' acts) (hf : x.1.hold.Fits s.phase) :
    (acts.foldl (perform launcher now) x).1.hold.Fits s'.phase := by
  cases hs with
  | launched => exact ⟨_, _, rfl⟩
  | kept hp =>
    rw [hp] at hf
    obtain ⟨script, returns, hx⟩ := hf
    exact ⟨.ofScript script now, by simp [perform, hx]⟩
  | confirmed hp =>
    rw [hp] at hf
    exact hf
  | shutDown hp =>
    obtain ⟨c, hx⟩ : ∃ c, x.1.hold = .capture c := by
      rcases hp with hp | ⟨_, hp⟩ <;> rw [hp] at hf <;> exact hf
    exact ⟨c.terminate now, by simp [perform, hx]⟩
  | killed hp =>
    rw [hp] at hf
    obtain ⟨c, hx⟩ := hf
    exact ⟨c.kill now, by simp [perform, hx]⟩
  | refused | rested | spent | vanished | stopped => trivial

end

/-! Runs -/

/-- What reaches a run: a request to stop, or a chance to go on with what is then to be launched and seen. -/
inductive Chance
  | stop
  | go (launcher : Launch → CaptureScript) (now : Nat) (clock : Timestamp) (endpoints : List Endpoint)

/-- A run and what it has left behind. -/
def take (x : SessionRun × SessionTrace) : Chance → SessionRun × SessionTrace
  | .stop => ({ x.1 with session := x.1.session.stop }, x.2)
  | .go launcher now clock endpoints =>
    match x.1.step launcher now clock endpoints with
    | some (r, trace) => (r, ⟨x.2.events ++ trace.events, x.2.calls ++ trace.calls⟩)
    | none => x

/-- What a run has come to after some chances. -/
def play (r : SessionRun) (chances : List Chance) : SessionRun × SessionTrace :=
  chances.foldl take (r, {})

/-- A run does what a course of its session does. -/
structure Plays (first : SessionRecord) (c : Course) (x : SessionRun × SessionTrace) : Prop where
  session_eq : x.1.session = c.session
  shown_eq : x.1.shown = displayed first c.acts
  events_eq : x.2.events = c.acts.filterMap SessionAct.event?
  calls_eq : x.2.calls = c.acts.filterMap (SessionAct.call? first.target)
  target_eq : x.1.target = first.target
  fits : x.1.hold.Fits x.1.session.phase

section
variable {first : SessionRecord} {c : Course} {x : SessionRun × SessionTrace}

theorem acts_logged {s : Session} {acts : List SessionAct} {now : Nat} :
    ({ session := s, log := c.log ++ acts.map (now, ·) } : Course).acts = c.acts ++ acts := by
  simp [Course.acts, Function.comp_def]

theorem Plays.stop (h : Plays first c x) : Plays first c.stop (take x .stop) :=
  ⟨congrArg Session.stop h.session_eq, h.shown_eq, h.events_eq, h.calls_eq, h.target_eq, h.fits⟩

theorem Plays.step {launcher : Launch → CaptureScript} {now : Nat} {clock : Timestamp}
    {endpoints : List Endpoint} {r : SessionRun} {trace : SessionTrace} (h : Plays first c x)
    (hs : x.1.step launcher now clock endpoints = some (r, trace)) :
    Plays first (c.look (x.1.view now clock endpoints))
      (r, ⟨x.2.events ++ trace.events, x.2.calls ++ trace.calls⟩) := by
  unfold SessionRun.step at hs
  split at hs
  · obtain ⟨⟨s, acts⟩, hstep, he⟩ := Option.map_eq_some_iff.mp hs
    obtain ⟨rfl, rfl⟩ := Prod.mk.inj he
    have hc : Session.Step x.1.session (x.1.view now clock endpoints) s acts :=
      Session.step_cases hstep
    have hl : c.look (x.1.view now clock endpoints) =
        { session := s, log := c.log ++ acts.map (now, ·) } := by
      unfold Course.look
      rw [← h.session_eq, hstep]
      rfl
    have ht : ({ x.1 with session := s } : SessionRun).target = first.target :=
      hc.target_eq.trans h.target_eq
    constructor
    case session_eq => rw [session_foldl, hl]
    case shown_eq => rw [shown_foldl, hl, acts_logged, displayed_append, ← h.shown_eq]
    case events_eq =>
      rw [events_foldl, hl, acts_logged, List.filterMap_append, ← h.events_eq]
      rfl
    case calls_eq =>
      rw [step_calls (x := ({ x.1 with session := s }, {})) hc h.fits, ht, hl, acts_logged,
        List.filterMap_append, ← h.calls_eq]
      rfl
    case target_eq =>
      rw [target, session_foldl]
      exact ht
    case fits =>
      rw [session_foldl]
      exact step_fits (x := ({ x.1 with session := s }, {})) hc h.fits
  · cases hs

/-- Every run does what some course of its session does. -/
theorem play_follows (h : Plays first c x) (chances : List Chance) :
    ∃ cues, Plays first (c.follow cues) (chances.foldl take x) := by
  induction chances generalizing c x with
  | nil => exact ⟨[], h⟩
  | cons chance chances ih =>
    cases chance with
    | stop =>
      obtain ⟨cues, hc⟩ := ih h.stop
      exact ⟨.stop :: cues, hc⟩
    | go launcher now clock endpoints =>
      cases hs : x.1.step launcher now clock endpoints with
      | none =>
        have ht : take x (.go launcher now clock endpoints) = x := by simp only [take, hs]
        obtain ⟨cues, hc⟩ := ih h
        exact ⟨cues, by rwa [List.foldl_cons, ht]⟩
      | some y =>
        obtain ⟨cues, hc⟩ := ih (h.step hs)
        refine ⟨.look (x.1.view now clock endpoints) :: cues, ?_⟩
        rw [List.foldl_cons, take, hs]
        exact hc

theorem plays_fresh (o : SessionOptions) (target : String) (clock : Timestamp) :
    Plays (.fresh target clock) (.ofTarget o target clock) ({ session := .ofTarget o target clock }, {}) :=
  ⟨rfl, rfl, rfl, rfl, rfl, trivial⟩

/-- Every run of a session from its beginning tells its story. -/
theorem play_tells (o : SessionOptions) (target : String) (clock : Timestamp) (chances : List Chance) :
    ∃ c, Plays (.fresh target clock) c (play { session := .ofTarget o target clock } chances) ∧
      Telling (.fresh target clock) c.session c.acts := by
  obtain ⟨cues, h⟩ := play_follows (plays_fresh o target clock) chances
  exact ⟨_, h, (Course.telling o target clock cues).2⟩

end
end SessionRun
end ProxyWatch
