import ProxyWatch.Proofs.Retry
import ProxyWatch.Proofs.Service.Exclusive
import ProxyWatch.Proofs.Session.Stopping

/-! Sessions between their steps, as a service keeps them. What a session that is to stop does in a step, what it waits
for if it does nothing, and what it reports. -/
namespace ProxyWatch

open Actor

/-- The state that a target's session goes into by an event. -/
def Event.entered? (target : String) : Event → Option SessionState
  | .sessionChanged t _ state _ _ _ => if t = target then some state else none
  | _ => none

/-- An event by which a target's session goes into a state is the news of that target alone. -/
theorem Event.exists_of_entered {e : Event} {target : String} (h : (e.entered? target).isSome = true) :
    ∃ p state n route error, e = .sessionChanged target p state n route error := by
  cases e with
  | sessionChanged t p state n route error =>
    obtain rfl : t = target := by
      by_contra ht
      simp [entered?, ht] at h
    exact ⟨p, state, n, route, error, rfl⟩
  | healthChanged | autoDisabled => cases h

theorem Event.entered_of_ne {e : Event} {target target' : String} (h : (e.entered? target).isSome = true)
    (hne : target ≠ target') : e.entered? target' = none := by
  obtain ⟨_, _, _, _, _, rfl⟩ := exists_of_entered h
  exact if_neg hne

namespace Session

variable {s s' : Session} {v : SessionView} {acts : List SessionAct} {target : String}

/-! What steps keep -/

theorem Failure.displayed_eq {e : ProcessError} {r : SessionRecord} (h : Failure s v acts e) :
    displayed r acts = r := by
  cases h <;> rfl

theorem Stop.displayed_eq {r : SessionRecord} (h : Stop s v acts) : displayed r acts = r := by
  cases h <;> rfl

/-- After a step the record of the session is displayed. -/
theorem Step.displayed_eq (h : Step s v s' acts) : displayed s.record acts = s'.record := by
  cases h with
  | refused | launched | kept | confirmed | shutDown | killed => rfl
  | rested | spent | vanished | stopped => simp only [displayed_append, displayed_announcement]

/-- The session is over when its state is a final one, and only then. -/
theorem Step.final_iff (h : Step s v s' acts) (hf : s.record.state.isTerminal = true ↔ s.phase = .over) :
    s'.record.state.isTerminal = true ↔ s'.phase = .over := by
  cases h with
  | refused | launched | rested | spent | vanished | confirmed | stopped =>
    simp [opening, failing, SessionState.isTerminal]
  | kept hp | killed hp => simpa [hp] using hf
  | shutDown hp => rcases hp with hp | ⟨_, hp⟩ <;> simpa [hp] using hf

/-- The session does not break off, as long as its policy knows every delay. -/
theorem Step.going (h : Step s v s' acts) (hd : ∀ n, s.options.retry.decide n ≠ .noDelay) : s'.phase ≠ .vanished := by
  cases h with
  | vanished _ _ hn => exact absurd hn (hd _)
  | _ => nofun

/-! Reports -/

theorem Stop.silent (h : Stop s v acts) : ∀ a ∈ acts, a.event? = none := by
  cases h <;> simp [SessionAct.event?]

theorem Failure.silent {e : ProcessError} (h : Failure s v acts e) : ∀ a ∈ acts, a.event? = none := by
  cases h <;> simp [SessionAct.event?]

/-- Whatever the acts report is news of a target's session. -/
def Tells (target : String) (acts : List SessionAct) : Prop :=
  ∀ a ∈ acts, ∀ e, a.event? = some e → (e.entered? target).isSome = true

theorem tells_append {acts' : List SessionAct} (h : Tells target acts) (h' : Tells target acts') :
    Tells target (acts ++ acts') := List.forall_mem_append.mpr ⟨h, h'⟩

theorem tells_announcement {p : Option SessionState} {r : SessionRecord} : Tells r.target (announcement p r) := by
  simp [Tells, announcement, SessionAct.event?, Event.entered?]

theorem tells_of_silent (h : ∀ a ∈ acts, a.event? = none) : Tells target acts := by
  intro a ha e he
  cases (h a ha).symm.trans he

/-- What a session reports is about its target. -/
theorem Step.tells (h : Step s v s' acts) : Tells s.record.target acts := by
  cases h with
  | kept | shutDown | killed => exact tells_of_silent (by simp [SessionAct.event?])
  | confirmed => exact tells_announcement
  | refused => exact tells_append tells_announcement tells_announcement
  | launched => exact tells_append tells_announcement (tells_of_silent (by simp [SessionAct.event?]))
  | rested _ hf | vanished _ hf => exact tells_append (tells_of_silent hf.silent) tells_announcement
  | spent _ hf => exact tells_append (tells_of_silent hf.silent) (tells_append tells_announcement tells_announcement)
  | stopped hq => exact tells_append (tells_of_silent hq.silent) tells_announcement

/-- A session reports that it is stopped only when it is over. -/
theorem Step.entered_ne_stopped (h : Step s v s' acts) (hp : s'.phase ≠ .over) :
    ∀ a ∈ acts, ∀ e, a.event? = some e → e.entered? target ≠ some .stopped := by
  have hannounced : ∀ p (r : SessionRecord), r.state ≠ .stopped →
      ∀ a ∈ announcement p r, ∀ e, a.event? = some e → e.entered? target ≠ some .stopped := by
    intro p r hr
    simp [announcement, SessionAct.event?, Event.entered?, hr]
  have hsilent : ∀ acts : List SessionAct, (∀ a ∈ acts, a.event? = none) →
      ∀ a ∈ acts, ∀ e, a.event? = some e → e.entered? target ≠ some .stopped := fun _ h a ha e he => by
    cases (h a ha).symm.trans he
  cases h with
  | kept | shutDown | killed => exact hsilent _ (by simp [SessionAct.event?])
  | confirmed => exact hannounced _ _ (by rintro ⟨⟩)
  | launched =>
    exact List.forall_mem_append.mpr ⟨hannounced _ _ (by rintro ⟨⟩), hsilent _ (by simp [SessionAct.event?])⟩
  | rested _ hf | vanished _ hf => exact List.forall_mem_append.mpr ⟨hsilent _ hf.silent, hannounced _ _ (by rintro ⟨⟩)⟩
  | refused | spent | stopped => exact absurd rfl hp

/-! Sessions that are to stop -/

/-- What a session that is to stop does in a step. -/
inductive StopStep (s : Session) : Session → List SessionAct → Prop
  /-- It shuts its capture down. -/
  | silent {s' : Session} {acts : List SessionAct} (ha : ∀ a ∈ acts, a.event? = none)
      (hr : s'.record = s.record) (hp : s'.phase ≠ .over) : StopStep s s' acts
  | stopped {s' : Session} {pre : List SessionAct} {r : SessionRecord} (hpre : ∀ a ∈ pre, a.event? = none)
      (ht : r.target = s.record.target) (hr : r.state = .stopped) (hs : s'.record = r) :
      StopStep s s' (pre ++ announcement s.previous r)

theorem Step.stopStep (h : Step s v s' acts) (hs : s.stopping = true) : StopStep s s' acts := by
  cases h with
  | shutDown | killed => exact .silent (by simp [SessionAct.event?]) rfl (by simp)
  | stopped hq => exact .stopped hq.silent rfl rfl rfl
  | refused _ hn | launched _ hn | kept _ hn | rested hn | spent hn | vanished hn | confirmed _ hn =>
    cases hs.symm.trans hn

/-- A session that is to stop goes on at once, unless it waits for its capture to end. -/
theorem ending_of_step_none (hs : s.stopping = true) (hn : s.step v = none) (hk : s.phase = .killing → v.killed = true)
    (ho : s.phase ≠ .over) (hg : s.phase ≠ .vanished) : ∃ d, s.phase = .ending d ∧ v.now < d := by
  cases hp : s.phase with
  | ending d =>
    refine ⟨d, rfl, Nat.lt_of_not_le fun hd => ?_⟩
    simp only [step, hp] at hn
    split at hn <;> simp_all
  | fresh | launching | resting =>
    obtain ⟨pre, -, he⟩ := step_of_free (v := v) hs (by rw [hp]; rfl) ho hg
    cases hn.symm.trans he
  | confirming t => cases hn.symm.trans (step_of_held hs (.inr ⟨t, hp⟩))
  | running => cases hn.symm.trans (step_of_held hs (.inl hp))
  | killing => simp [step, hp, hk hp] at hn
  | vanished => exact absurd hp hg
  | _ => exact absurd hp ho

end Session

namespace SessionRun

/-- What holds of a session of a service at an instant. -/
structure Managed (config : Config) (now : Nat) (r : SessionRun) : Prop where
  begun : r.begun = true
  options : r.session.options = config.sessionOptions
  shown : r.shown = r.session.record
  final : r.session.record.state.isTerminal = true ↔ r.session.phase = .over
  going : r.session.phase ≠ .vanished
  poised : Poised (r, [])
  fits : r.hold.Fits r.session.phase
  ordered : r.session.Ordered
  /-- A kill has returned when the next step comes. -/
  killed : r.session.phase = .killing → r.killed = true
  /-- What is left of the grace period is no more than all of it. -/
  inGrace : ∀ d, r.session.phase = .ending d → d ≤ now + config.sessionOptions.stopGrace.millisUp

variable {config : Config} {now now' : Nat} {r r' : SessionRun} {launcher : Launch → CaptureScript} {clock : Timestamp}
  {es : List Endpoint} {trace : SessionTrace} {target : String} {x : SessionRun × SessionTrace} {acts : List SessionAct}
  {s s' : Session} {v : SessionView}

/-! One step -/

theorem begun_perform {a : SessionAct} : (perform launcher now x a).1.begun = x.1.begun := by
  cases a with
  | keep | terminate | kill =>
    simp only [perform]
    split <;> rfl
  | _ => rfl

theorem begun_foldl : (acts.foldl (perform launcher now) x).1.begun = x.1.begun := by
  induction acts generalizing x with
  | nil => rfl
  | cons a acts ih => rw [List.foldl_cons, ih, begun_perform]

/-- A session that does all that it has to do stays poised. -/
theorem poised_foldl (h : Poised (x.1, acts)) : Poised ((acts.foldl (perform launcher now) x).1, []) := by
  induction acts generalizing x with
  | nil => exact h
  | cons a acts ih =>
    refine ih ?_
    rw [Stage.perform_fst]
    exact h.act launcher now

theorem exists_of_step (hs : r.step launcher now clock es = some (r', trace)) : ∃ s acts,
    r.session.step (r.view now clock es) = some (s, acts) ∧
    (acts.foldl (perform launcher now) ({ r with session := s }, {})).1 = r' ∧
    trace.events = acts.filterMap SessionAct.event? := by
  unfold step at hs
  split at hs
  · obtain ⟨⟨s, acts⟩, hstep, he⟩ := Option.map_eq_some_iff.mp hs
    refine ⟨s, acts, hstep, congrArg Prod.fst he, ?_⟩
    have htrace : (acts.foldl (perform launcher now) ({ r with session := s }, {})).2 = trace := congrArg Prod.snd he
    rw [← htrace, events_foldl]
    rfl
  · cases hs

/-- A session that begins to kill its capture has killed it when the step is done. -/
theorem killed_of_step (h : Session.Step r.session v s acts) (hf : r.hold.Fits r.session.phase)
    (hp : s.phase = .killing) : (acts.foldl (perform launcher now) ({ r with session := s }, {})).1.killed = true := by
  cases h with
  | killed hq =>
    rw [hq] at hf
    obtain ⟨c, hc⟩ := hf
    simp [perform, hc]
  | refused | launched | kept | rested | spent | vanished | confirmed | shutDown | stopped => cases hp

theorem inGrace_of_step {d : Nat} (h : Session.Step s v s' acts) (hp : s'.phase = .ending d) :
    d ≤ v.now + s.options.stopGrace.millisUp := by
  cases h with
  | shutDown =>
    cases hp
    exact graceEnd_le (m := { session := s, now := v.now })
  | refused | launched | kept | rested | spent | vanished | confirmed | killed | stopped => cases hp

namespace Managed

theorem fresh (config : Config) (now : Nat) (target : String) (clock : Timestamp) :
    Managed config now { session := Session.ofTarget config.sessionOptions target clock } where
  begun := rfl
  options := rfl
  shown := rfl
  final := by simp [Session.ofTarget, SessionRecord.fresh, SessionState.isTerminal]
  going := nofun
  poised := poised_fresh _ rfl rfl
  fits := trivial
  ordered := by simp [Session.Ordered, Session.ofTarget]
  killed := nofun
  inGrace := nofun

theorem pass (h : Managed config now r) (hle : now ≤ now') : Managed config now' r :=
  { h with inGrace := fun d hd => (h.inGrace d hd).trans (Nat.add_le_add_right hle _) }

theorem stop (h : Managed config now r) : Managed config now { r with session := r.session.stop } where
  begun := h.begun
  options := h.options
  shown := h.shown
  final := h.final
  going := h.going
  poised := h.poised.acting (.ask r [])
  fits := h.fits
  ordered _ := rfl
  killed := h.killed
  inGrace := h.inGrace

theorem step (hv : config.validate = .ok ()) (h : Managed config now r)
    (hs : r.step launcher now clock es = some (r', trace)) : Managed config now r' := by
  obtain ⟨s, acts, hdecide, rfl, -⟩ := exists_of_step hs
  have hstep : Session.Step r.session (r.view now clock es) s acts := Session.step_cases hdecide
  have hoptions : s.options = config.sessionOptions := hstep.options_eq.trans h.options
  constructor
  case begun => exact begun_foldl.trans h.begun
  case options => rw [session_foldl, hoptions]
  case shown =>
    rw [shown_foldl, session_foldl, ← hstep.displayed_eq]
    exact congrArg (displayed · acts) h.shown
  case final =>
    rw [session_foldl]
    exact hstep.final_iff h.final
  case going =>
    rw [session_foldl]
    refine hstep.going fun n hn => ?_
    obtain ⟨d, hd, -⟩ := Config.exists_delay hv n
    rw [h.options] at hn
    cases (RetryPolicy.delay_eq_none hn).symm.trans hd
  case poised => exact poised_foldl (h.poised.acting (.decide h.begun hdecide))
  case fits =>
    rw [session_foldl]
    exact step_fits (x := ({ r with session := s }, {})) hstep h.fits
  case ordered =>
    rw [session_foldl]
    exact hstep.ordered h.ordered
  case killed =>
    rw [session_foldl]
    exact killed_of_step hstep h.fits
  case inGrace =>
    rw [session_foldl]
    intro d hd
    exact h.options ▸ inGrace_of_step hstep hd

/-! Its end -/

theorem isFinished_iff (h : Managed config now r) : r.isFinished = true ↔ r.session.phase = .over := by
  rw [isFinished, h.shown]
  exact h.final

/-- A session is seen to be over exactly if its state is a final one. -/
theorem outcome_isSome (h : Managed config now r) : r.outcome?.isSome = r.isFinished := by
  unfold outcome? SessionRecord.outcome? isFinished
  rw [decide_eq_false h.going]
  split
  · rename_i hf
    rw [hf]
    rfl
  · rename_i hf
    rw [Bool.eq_false_iff.mpr hf]
    rfl

theorem step_of_finished (h : Managed config now r) (hf : r.isFinished = true) :
    r.step launcher now' clock es = none := by
  rw [SessionRun.step, if_pos h.begun, Session.step_of_done (.inl (h.isFinished_iff.mp hf))]
  rfl

/-- What a session that is to stop does in a step: it goes on to shut its capture down and reports nothing, or it is
stopped and reports that. -/
theorem step_stopping (h : Managed config now r) (ht : r.session.stopping = true)
    (hs : r.step launcher now clock es = some (r', trace)) : r'.session.stopping = true ∧
    ((r'.isFinished = false ∧ trace.events = []) ∨
      (r'.shown.state = .stopped ∧ ∃ e, trace.events = [e] ∧ e.entered? r.target = some .stopped)) := by
  obtain ⟨s, acts, hdecide, rfl, htrace⟩ := exists_of_step hs
  have hstep : Session.Step r.session (r.view now clock es) s acts := Session.step_cases hdecide
  refine ⟨by rw [session_foldl, hstep.stopping_eq, ht], ?_⟩
  have hshown : (acts.foldl (perform launcher now) ({ r with session := s }, {})).1.shown = s.record := by
    rw [shown_foldl, ← hstep.displayed_eq]
    exact congrArg (displayed · acts) h.shown
  rw [isFinished, hshown, htrace]
  cases hstep.stopStep ht with
  | silent ha hr hp =>
    left
    refine ⟨Bool.eq_false_iff.mpr fun hf => hp ((hstep.final_iff h.final).mp hf), ?_⟩
    exact List.filterMap_eq_nil_iff.mpr ha
  | @stopped pre record hpre htarget hr hrecord =>
    right
    refine ⟨hrecord ▸ hr, .sessionChanged record.target r.session.previous record.state record.attempt record.route
      record.told, ?_, ?_⟩
    · rw [List.filterMap_append, List.filterMap_eq_nil_iff.mpr hpre]
      rfl
    · have htarget : record.target = r.target := htarget
      rw [Event.entered?, if_pos htarget, hr]

/-- A session that is to stop waits for nothing but the end of its capture. -/
theorem waits (h : Managed config now r) (ht : r.session.stopping = true) (hf : r.isFinished = false)
    (hn : r.step launcher now clock es = none) : ∃ d, r.session.phase = .ending d ∧ now < d := by
  rw [SessionRun.step, if_pos h.begun, Option.map_eq_none_iff] at hn
  refine Session.ending_of_step_none ht hn h.killed (fun ho => ?_) h.going
  rw [h.isFinished_iff.mpr ho] at hf
  cases hf

end Managed

/-- A session that is not over yet has not reported that it is stopped. -/
theorem entered_ne_stopped (hs : r.step launcher now clock es = some (r', trace)) (hf : r'.session.phase ≠ .over) :
    ∀ e ∈ trace.events, e.entered? target ≠ some .stopped := by
  obtain ⟨s, acts, hdecide, rfl, htrace⟩ := exists_of_step hs
  rw [session_foldl] at hf
  rw [htrace]
  intro e he
  obtain ⟨a, ha, hea⟩ := List.mem_filterMap.mp he
  exact (Session.step_cases hdecide).entered_ne_stopped hf a ha e hea

/-- What a session reports is about its target. -/
theorem tells_of_step (hs : r.step launcher now clock es = some (r', trace)) :
    ∀ e ∈ trace.events, (e.entered? r.target).isSome = true := by
  obtain ⟨s, acts, hdecide, -, htrace⟩ := exists_of_step hs
  rw [htrace]
  intro e he
  obtain ⟨a, ha, hea⟩ := List.mem_filterMap.mp he
  exact (Session.step_cases hdecide).tells a ha e hea

theorem entered_of_step (hs : r.step launcher now clock es = some (r', trace)) (hne : r.target ≠ target) :
    ∀ e ∈ trace.events, e.entered? target = none := fun e he => Event.entered_of_ne (tells_of_step hs e he) hne

/-! What a session asks of its launcher -/

variable {launcher' : Launch → CaptureScript}

theorem perform_congr {x : SessionRun × SessionTrace} (h : ∀ l, l.target = x.1.target → launcher l = launcher' l)
    (a : SessionAct) : perform launcher now x a = perform launcher' now x a := by
  cases a with
  | launch proxy attempt => simp only [perform, h { target := x.1.target, proxy, attempt } rfl]
  | _ => rfl

theorem foldl_congr {x : SessionRun × SessionTrace} (h : ∀ l, l.target = x.1.target → launcher l = launcher' l)
    (acts : List SessionAct) : acts.foldl (perform launcher now) x = acts.foldl (perform launcher' now) x := by
  induction acts generalizing x with
  | nil => rfl
  | cons a acts ih =>
    rw [List.foldl_cons, List.foldl_cons, ← perform_congr h]
    exact ih fun l hl => h l (hl.trans target_perform)

/-- All that a session has to know of the launcher is how it launches for the session's target. -/
theorem step_congr (h : ∀ l, l.target = r.target → launcher l = launcher' l) :
    r.step launcher now clock es = r.step launcher' now clock es := by
  unfold step
  split
  · cases hs : r.session.step (r.view now clock es) with
    | none => rfl
    | some x =>
      have htarget : x.1.record.target = r.target := (Session.step_cases hs).target_eq
      exact congrArg some (foldl_congr (x := ({ r with session := x.1 }, {})) (fun l hl => h l (hl.trans htarget)) x.2)
  · rfl

theorem calls_perform {x : SessionRun × SessionTrace} (h : ∀ c ∈ x.2.calls, c.target = x.1.target) (a : SessionAct) :
    ∀ c ∈ (perform launcher now x a).2.calls, c.target = x.1.target := by
  have hnew : ∀ c', c'.target = x.1.target → ∀ c ∈ x.2.calls ++ [c'], c.target = x.1.target := by
    intro c' hc' c hc
    rcases List.mem_append.mp hc with hc | hc
    · exact h c hc
    · rwa [List.mem_singleton.mp hc]
  cases a with
  | launch => exact hnew _ rfl
  | terminate | kill =>
    simp only [perform]
    split
    · exact hnew _ rfl
    · exact h
  | keep =>
    simp only [perform]
    split <;> exact h
  | report | display | abandon | release => exact h

theorem calls_foldl_target {x : SessionRun × SessionTrace} (h : ∀ c ∈ x.2.calls, c.target = x.1.target)
    (acts : List SessionAct) : ∀ c ∈ (acts.foldl (perform launcher now) x).2.calls, c.target = x.1.target := by
  induction acts generalizing x with
  | nil => exact h
  | cons a acts ih =>
    have htarget : (perform launcher now x a).1.target = x.1.target := target_perform
    rw [← htarget]
    refine ih fun c hc => ?_
    rw [htarget]
    exact calls_perform h a c hc

/-- All calls of a session are about its target. -/
theorem calls_of_step (hs : r.step launcher now clock es = some (r', trace)) : ∀ c ∈ trace.calls, c.target = r.target := by
  unfold step at hs
  split at hs
  · obtain ⟨⟨s, acts⟩, hstep, he⟩ := Option.map_eq_some_iff.mp hs
    have htarget : s.record.target = r.target := (Session.step_cases hstep).target_eq
    have hcalls : ∀ c ∈ (acts.foldl (perform launcher now) ({ r with session := s }, {})).2.calls, c.target = s.record.target :=
      calls_foldl_target (by simp) acts
    simp only at he
    rw [he] at hcalls
    exact fun c hc => (hcalls c hc).trans htarget
  · cases hs

end SessionRun
end ProxyWatch
