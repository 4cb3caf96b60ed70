import ProxyWatch.Proofs.Session.Plan
import ProxyWatch.Proofs.Session.Step

/-! A session keeps to its plan. At every instant it has done what the plan has up to then, and nothing else. -/
namespace ProxyWatch

namespace Duration

theorem millisUp_ofSeconds (n : Nat) : (ofSeconds n).millisUp = 1000 * n := by
  simp only [millisUp, ofSeconds, perSecond]
  omega

theorem millisUp_ofMillis (n : Nat) : (ofMillis n).millisUp = n := by
  simp only [millisUp, ofMillis]
  omega

end Duration

/-! What a session does that nobody stops -/

namespace Session

variable {s : Session} {v : SessionView}

theorem step_resting {wake : Nat} (hp : s.phase = .resting wake) (hs : s.stopping = false) :
    s.step v = if wake ≤ v.now then some (s.begin v) else none := by
  simp [step, hp, hs]

theorem step_launching {deadline : Nat} (hp : s.phase = .launching deadline) (hs : s.stopping = false) :
    s.step v = match v.launched with
      | some result => some (s.launched v deadline result)
      | none =>
        if deadline ≤ v.now then some ((s.fail v (.startTimeout s.options.startTimeout)).after [.abandon])
        else none := by
  cases hv : v.launched <;> simp [step, hp, hs, hv]

theorem step_confirming {confirmed : Nat} (hp : s.phase = .confirming confirmed) (hs : s.stopping = false) :
    s.step v = match v.exit with
      | some exit => some (s.exitedEarly v exit)
      | none => if confirmed ≤ v.now then some (s.confirm v) else none := by
  cases hv : v.exit <;> simp [step, hp, hs, hv]

theorem step_running (hp : s.phase = .running) (hs : s.stopping = false) : s.step v = v.exit.map (s.exited v) := by
  simp [step, hp, hs]

end Session

namespace Scenario

variable (x : Scenario)

/-- What a step leaves to be seen at an instant. -/
def marks (now : Nat) (trace : SessionTrace) : Plan :=
  (trace.events.map fun e => (now, .report e)) ++ trace.calls.map fun c => (now, .call c)

/-- A session of the scenario after so many failures. -/
def run (record : SessionRecord) (failures : Nat) (phase : Phase) (hold : Hold) (shown : SessionRecord) :
    SessionRun where
  session := { options := x.config.sessionOptions, record, announced := true, retries := failures, phase }
  shown
  hold

/-- The record of an attempt under way. -/
structure Tells (n : Nat) (route : Route) (state : SessionState) (r : SessionRecord) : Prop where
  target : r.target = x.target
  attempt : r.attempt = n
  route : r.route = some route
  state : r.state = state

/-- What is left of the plan at an instant, as a session has come so far: whatever it waits for is not past. Only a
request to stop leads to the phases that aren't listed. -/
inductive Tracks (now : Nat) : SessionRun → Plan → Prop
  | fresh (clock : Timestamp) :
      Tracks now { session := .ofTarget x.config.sessionOptions x.target clock } (x.plan now)
  | launching {record shown : SessionRecord} {k left start : Nat} {route : Route}
      (hr : x.Tells (k + 1) route .starting record) (hl : left + k = x.config.supervisor.maxRetries)
      (hd : now ≤ start + x.timeout) (ht : ∀ time ∈ (x.script (k + 1)).launchTime, now ≤ start + time) :
      Tracks now
        (x.run record k (.launching (start + x.timeout))
          (.launch (x.script (k + 1)) ((x.script (k + 1)).launchTime.map (start + ·))) shown)
        (x.followed (k + 1) route (x.again left (k + 1) route) (x.attempt (x.script (k + 1)) start))
  | confirming {record shown : SessionRecord} {k left launch deadline : Nat} {route : Route}
      (hr : x.Tells (k + 1) route .starting record) (hl : left + k = x.config.supervisor.maxRetries)
      (hc : now ≤ min (launch + x.confirm) deadline)
      (ht : ∀ life ∈ (x.script (k + 1)).lifetime, now ≤ launch + life) :
      Tracks now
        (x.run record k (.confirming (min (launch + x.confirm) deadline))
          (.capture (.ofScript (x.script (k + 1)) launch)) shown)
        (x.followed (k + 1) route (x.again left (k + 1) route) (x.launched (x.script (k + 1)) launch deadline))
  | running {record shown : SessionRecord} {k left launch : Nat} {route : Route}
      (hr : x.Tells (k + 1) route .running record) (hl : left + k = x.config.supervisor.maxRetries)
      (ht : ∀ life ∈ (x.script (k + 1)).lifetime, now ≤ launch + life) :
      Tracks now (x.run record k .running (.capture (.ofScript (x.script (k + 1)) launch)) shown)
        (x.ended (k + 1) route .running (x.again left (k + 1) route)
          ((x.script (k + 1)).lifetime.map fun life => (launch + life, (x.script (k + 1)).late)))
  | resting {record shown : SessionRecord} {k left wake : Nat} {route : Route} {hold : Hold}
      (hr : x.Tells k route .retrying record) (hl : left + k = x.config.supervisor.maxRetries) (hw : now ≤ wake) :
      Tracks now (x.run record k (.resting wake) hold shown) (x.planFrom left (k + 1) wake (some .retrying))
  | done {r : SessionRun} (hp : r.session.phase = .over ∨ r.session.phase = .vanished) : Tracks now r []

variable {x} {now now' : Nat} {r : SessionRun} {rest : Plan}

/-- What is left of the plan is still to come. -/
theorem Tracks.since (h : Tracks x now r rest) : Since now rest := by
  cases h with
  | fresh => exact since_planFrom _ _ _ _
  | launching _ _ hd ht =>
    obtain ⟨hr, he⟩ := since_attempt hd ht
    exact since_followed hr he fun _ e ht => since_again _ _ _ e ht
  | confirming _ _ hc ht =>
    obtain ⟨hr, he⟩ := since_launched hc ht
    exact since_followed hr he fun _ e ht => since_again _ _ _ e ht
  | running _ _ ht =>
    refine since_ended (fun y hy => ?_) fun _ e ht => since_again _ _ _ e ht
    obtain ⟨life, hlife, rfl⟩ := Option.map_eq_some_iff.mp hy
    exact ht life hlife
  | resting _ _ hw => exact Since.of_le (since_planFrom _ _ _ _) hw
  | done => exact since_nil

/-! One step -/

variable {launcher : Launch → CaptureScript} {clock : Timestamp} {es : List Endpoint}

/-- A run in which a session has reacted, and what it has left behind. -/
def reacted (launcher : Launch → CaptureScript) (now : Nat) (hold : Hold) (shown : SessionRecord)
    (y : Session.Reaction) : SessionRun × SessionTrace :=
  y.2.foldl (SessionRun.perform launcher now) ({ session := y.1, shown, hold }, {})

/-- Whatever the session does, the plan has it now. -/
def Keeps (x : Scenario) (now : Nat) (rest : Plan) (y : SessionRun × SessionTrace) : Prop :=
  ∃ rest', rest = marks now y.2 ++ rest' ∧ Tracks x now y.1 rest'

theorem timer_eq {d : Duration} (hd : d.seconds < Clock.reach) : Clock.timer now d = now + d.millisUp := by
  rw [Clock.timer, Clock.endOr, if_pos hd]

theorem deadline_timeout (hv : x.config.validate = .ok ()) :
    Clock.deadline now x.config.sessionOptions.startTimeout = now + x.timeout := by
  have hle := (Config.supervisor_of_validate hv).2.1
  have hd : (Duration.ofSeconds x.config.supervisor.startTimeoutSeconds).seconds < Clock.reach := by
    rw [Duration.seconds_ofSeconds]
    exact Nat.lt_of_le_of_lt hle (by decide)
  change Clock.endOr _ now _ = _
  rw [Clock.endOr]
  exact (if_pos hd).trans (congrArg (now + ·) (Duration.millisUp_ofSeconds _))

theorem deadline_confirm (hv : x.config.validate = .ok ()) :
    Clock.deadline now x.config.sessionOptions.startConfirm = now + x.confirm := by
  obtain ⟨-, hle, hlt⟩ := Config.supervisor_of_validate hv
  have hd : (Duration.ofMillis x.config.supervisor.startConfirmMs).seconds < Clock.reach := by
    have hms : x.config.supervisor.startConfirmMs < maxSettingSeconds * 1000 :=
      Nat.lt_of_lt_of_le hlt (Nat.mul_le_mul_right _ hle)
    have hs : (Duration.ofMillis x.config.supervisor.startConfirmMs).seconds ≤ maxSettingSeconds := by
      simp only [Duration.seconds, Duration.ofMillis, Duration.perSecond]
      omega
    exact Nat.lt_of_le_of_lt hs (by decide)
  change Clock.endOr _ now _ = _
  rw [Clock.endOr]
  exact (if_pos hd).trans (congrArg (now + ·) (Duration.millisUp_ofMillis _))

/-- An attempt begins when the plan has it. -/
theorem tracks_begin (hv : x.config.validate = .ok ()) {s : Session} {v : SessionView} {k left : Nat} {hold : Hold}
    {shown : SessionRecord} (hlaunch : ∀ l, l.attempt = k + 1 → launcher l = x.script (k + 1))
    (ho : s.options = x.config.sessionOptions) (hs : s.stopping = false) (hk : s.retries = k)
    (ht : s.record.target = x.target) (ha : s.record.attempt = k) (hl : left + k = x.config.supervisor.maxRetries)
    (hnow : v.now = now) (hseen : v.endpoints = x.seen (k + 1)) :
    Keeps x now (x.planFrom left (k + 1) now s.previous) (reacted launcher now hold shown (s.begin v)) := by
  obtain ⟨options, record, announced, retries, stopping, phase⟩ := s
  simp only at ho hs hk ht ha
  subst ho hs hk
  rw [planFrom_eq, opened]
  have hf : x.config.sessionOptions.fallback = x.config.failover.fallback := rfl
  cases hsel : Selection.select (x.seen (retries + 1)) x.config.failover.fallback with
  | error e =>
    refine ⟨[], ?_, ?_⟩
    · simp [reacted, Session.begin, hseen, hf, hsel, Session.enter, Session.finish, Session.Reaction.after, marks,
        change, SessionRun.perform, Session.previous, ht, ha]
    · refine .done (.inl ?_)
      simp [reacted, Session.begin, hseen, hf, hsel, Session.enter, Session.finish, Session.Reaction.after,
        SessionRun.perform]
  | ok choice =>
    let opening : SessionRecord :=
      { record with attempt := record.attempt + 1, route := some choice.route, state := .starting, changed := v.clock }
    have hr : reacted launcher now hold shown (Session.begin
          { options := x.config.sessionOptions, record, announced, retries, phase } v) =
        (x.run opening retries (.launching (now + x.timeout)) (.launch (x.script (retries + 1))
            ((x.script (retries + 1)).launchTime.map (now + ·))) opening,
          { events := [.sessionChanged x.target (if announced then some record.state else none) .starting (retries + 1)
              (some choice.route) none]
            calls := [.launch { target := x.target, proxy := choice.proxyUrl, attempt := retries + 1 }] }) := by
      simp [reacted, Session.begin, hseen, hf, hsel, Session.enter, SessionRun.perform, run, opening, ht, ha, hlaunch,
        SessionRun.target, hnow, deadline_timeout hv]
    rw [hr]
    exact ⟨_, rfl, .launching ⟨ht, congrArg (· + 1) ha, rfl, rfl⟩ hl (Nat.le_add_right ..)
      fun _ _ => Nat.le_add_right ..⟩

/-- Acts that let go of what is held, and are not seen. -/
def Silent (acts : List SessionAct) : Prop := acts = [] ∨ acts = [.abandon] ∨ acts = [.release]

theorem reacted_after (launcher : Launch → CaptureScript) (now : Nat) {acts : List SessionAct} (h : Silent acts)
    (hold : Hold) (shown : SessionRecord) (y : Session.Reaction) :
    ∃ hold', reacted launcher now hold shown (y.after acts) = reacted launcher now hold' shown y := by
  rcases h with rfl | rfl | rfl
  · exact ⟨hold, rfl⟩
  · exact ⟨.nothing, rfl⟩
  · exact ⟨.nothing, rfl⟩

/-- A failure leads on as the plan has it. -/
theorem tracks_fail (hv : x.config.validate = .ok ()) {record shown : SessionRecord} {k left : Nat} {route : Route}
    {before : SessionState} (hr : x.Tells (k + 1) route before record) (hl : left + k = x.config.supervisor.maxRetries)
    {phase : Phase} {hold : Hold} {acts : List SessionAct} (ha : Silent acts) (e : ProcessError) :
    Keeps x now ((now, x.change (k + 1) (some route) (some before) .retrying (some e.message)) ::
        x.again left (k + 1) route now e)
      (reacted launcher now hold shown (((x.run record k phase hold shown).session.fail
        ((x.run record k phase hold shown).view now clock es) e).after acts)) := by
  obtain ⟨hold', hy⟩ := reacted_after launcher now ha hold shown
    ((x.run record k phase hold shown).session.fail ((x.run record k phase hold shown).view now clock es) e)
  rw [hy]
  cases left with
  | zero =>
    have hspent : x.config.sessionOptions.retry.decide (k + 1) = .spent :=
      if_neg (by change ¬ k + 1 ≤ x.config.supervisor.maxRetries; omega)
    refine ⟨[], ?_, .done (.inl ?_)⟩
    · simp [reacted, run, Session.fail, Session.enter, Session.finish, Session.Reaction.after, hspent, marks, change,
        SessionRun.perform, again, hr.target, hr.attempt, hr.route, hr.state]
    · simp [reacted, run, Session.fail, Session.enter, Session.finish, Session.Reaction.after, hspent,
        SessionRun.perform]
  | succ left =>
    obtain ⟨d, hd, hreach⟩ := Config.exists_delay hv (k + 1)
    have hafter : x.config.sessionOptions.retry.decide (k + 1) = .after d := by
      rw [RetryPolicy.decide, if_pos (by change k + 1 ≤ x.config.supervisor.maxRetries; omega), hd]
    let failing : SessionRecord := { record with state := .retrying, changed := clock, error := some e.message }
    have hfail : reacted launcher now hold' shown ((x.run record k phase hold shown).session.fail
          ((x.run record k phase hold shown).view now clock es) e) =
        (x.run failing (k + 1) (.resting (now + d.millisUp)) hold' failing,
          { events := [.sessionChanged x.target (some before) .retrying (k + 1) (some route) (some e.message)] }) := by
      simp [reacted, run, Session.fail, Session.enter, hafter, SessionRun.perform, SessionRun.view, failing, hr.target,
        hr.attempt, hr.route, hr.state, timer_eq hreach]
    have hpause : x.pause? (k + 1) = some d.millisUp := by rw [pause?, hd, Option.map_some]
    rw [hfail]
    refine ⟨x.planFrom left (k + 2) (now + d.millisUp) (some .retrying), ?_, ?_⟩
    · rw [again, hpause]
      rfl
    · exact .resting ⟨hr.target, hr.attempt, hr.route, rfl⟩ (by omega) (Nat.le_add_right ..)

/-- What a run does is what its session does. -/
theorem step_run {record shown : SessionRecord} {k : Nat} {phase : Phase} {hold : Hold} :
    (x.run record k phase hold shown).step launcher now clock es =
      ((x.run record k phase hold shown).session.step ((x.run record k phase hold shown).view now clock es)).map
        (reacted launcher now hold shown) := rfl

section
variable {record shown : SessionRecord} {k left launch deadline wake : Nat} {route : Route} {hold : Hold}
  {y : SessionRun × SessionTrace}

theorem keeps_resting (hv : x.config.validate = .ok ()) (hr : x.Tells k route .retrying record)
    (hl : left + k = x.config.supervisor.maxRetries) (hw : now ≤ wake)
    (hlaunch : ∀ l, l.attempt = k + 1 → launcher l = x.script (k + 1))
    (h : (x.run record k (.resting wake) hold shown).step launcher now clock (x.seen (k + 1)) = some y) :
    Keeps x now (x.planFrom left (k + 1) wake (some .retrying)) y := by
  rw [step_run, Session.step_resting rfl rfl] at h
  obtain ⟨_, hz, rfl⟩ := Option.map_eq_some_iff.mp h
  obtain ⟨hle, hz⟩ := Option.ite_none_right_eq_some.mp hz
  cases hz
  obtain rfl : wake = now := Nat.le_antisymm hle hw
  have hprevious : (x.run record k (.resting wake) hold shown).session.previous = some .retrying := by
    simp [Session.previous, run, hr.state]
  rw [← hprevious]
  exact tracks_begin hv hlaunch rfl rfl rfl hr.target hr.attempt hl rfl rfl

/-! A capture that has ended by now -/

theorem exit_ofScript {s : CaptureScript} {e : Except ProcessError ExitReport} :
    (Hold.capture (.ofScript s launch)).exit? now = some e ↔
      ∃ life, s.lifetime = some life ∧ launch + life ≤ now ∧ e = s.exit := by
  cases hs : s.lifetime with
  | none => simp [Hold.exit?, Capture.exit?, Capture.ofScript, hs]
  | some life =>
    have heq : (Hold.capture (.ofScript s launch)).exit? now = if launch + life ≤ now then some s.exit else none := by
      simp only [Hold.exit?, Capture.exit?, Capture.ofScript, CaptureScript.exit, hs, Option.map_some]
      cases s.waitError <;> cases s.code <;> rfl
    simp only [heq, Option.ite_none_right_eq_some, Option.some.injEq, exists_eq_left', eq_comm (a := e)]

theorem exit_ofScript_none {s : CaptureScript} :
    (Hold.capture (.ofScript s launch)).exit? now = none ↔ ∀ life, s.lifetime = some life → now < launch + life := by
  rw [Option.eq_none_iff_forall_ne_some]
  simp only [ne_eq, exit_ofScript, not_exists, not_and]
  constructor
  · exact fun h life hlife => Nat.lt_of_not_le fun hle => h _ life hlife hle rfl
  · exact fun h _ life hlife hle _ => absurd (h life hlife) (Nat.not_lt.mpr hle)

theorem keeps_running (hv : x.config.validate = .ok ()) (hr : x.Tells (k + 1) route .running record)
    (hl : left + k = x.config.supervisor.maxRetries)
    (ht : ∀ life ∈ (x.script (k + 1)).lifetime, now ≤ launch + life)
    (h : (x.run record k .running (.capture (.ofScript (x.script (k + 1)) launch)) shown).step launcher now clock es =
      some y) :
    Keeps x now (x.ended (k + 1) route .running (x.again left (k + 1) route)
      ((x.script (k + 1)).lifetime.map fun life => (launch + life, (x.script (k + 1)).late))) y := by
  rw [step_run, Session.step_running rfl rfl] at h
  obtain ⟨_, hz, rfl⟩ := Option.map_eq_some_iff.mp h
  obtain ⟨e, he, rfl⟩ := Option.map_eq_some_iff.mp hz
  obtain ⟨life, hlife, hle, rfl⟩ := exit_ofScript.mp he
  obtain rfl : launch + life = now := Nat.le_antisymm hle (ht life hlife)
  rw [hlife, Option.map_some]
  unfold CaptureScript.late
  cases (x.script (k + 1)).exit with
  | error e => exact tracks_fail hv hr hl (.inr (.inr rfl)) e
  | ok r =>
    cases hsuccess : r.success with
    | false =>
      simp only [Session.exited, hsuccess, Bool.false_eq_true, if_false]
      exact tracks_fail hv hr hl (.inr (.inr rfl)) (.crash r)
    | true =>
      simp only [Session.exited, hsuccess, if_true]
      refine ⟨[], ?_, .done (.inl ?_)⟩
      · simp [reacted, run, Session.finish, Session.enter, Session.Reaction.after, SessionRun.perform, marks, change,
          ended, hr.target, hr.attempt, hr.route, hr.state, SessionRun.view]
      · simp [reacted, run, Session.finish, Session.enter, Session.Reaction.after, SessionRun.perform]

/-! A launch that has returned by now -/

theorem launched_launch {s : CaptureScript} {start : Nat} {result : Except ProcessError Unit} :
    (Hold.launch s (s.launchTime.map (start + ·))).launched? now = some result ↔
      ∃ time, s.launchTime = some time ∧ start + time ≤ now ∧ result = s.started := by
  cases hs : s.launchTime with
  | none => simp [Hold.launched?]
  | some time =>
    have heq : (Hold.launch s (some (start + time))).launched? now =
        if start + time ≤ now then some s.started else none := rfl
    simp only [Option.map_some, heq, Option.ite_none_right_eq_some, Option.some.injEq, exists_eq_left',
      eq_comm (a := result)]

theorem launched_launch_none {s : CaptureScript} {start : Nat} :
    (Hold.launch s (s.launchTime.map (start + ·))).launched? now = none ↔
      ∀ time, s.launchTime = some time → now < start + time := by
  rw [Option.eq_none_iff_forall_ne_some]
  simp only [ne_eq, launched_launch, not_exists, not_and]
  constructor
  · exact fun h time htime => Nat.lt_of_not_le fun hle => h _ time htime hle rfl
  · exact fun h _ time htime hle _ => absurd (h time htime) (Nat.not_lt.mpr hle)

/-- A capture is confirmed when the plan has it, unless it ends before. -/
theorem keeps_confirming (hv : x.config.validate = .ok ()) (hr : x.Tells (k + 1) route .starting record)
    (hl : left + k = x.config.supervisor.maxRetries) (hc : now ≤ min (launch + x.confirm) deadline)
    (ht : ∀ life ∈ (x.script (k + 1)).lifetime, now ≤ launch + life)
    (h : (x.run record k (.confirming (min (launch + x.confirm) deadline))
      (.capture (.ofScript (x.script (k + 1)) launch)) shown).step launcher now clock es = some y) :
    Keeps x now (x.followed (k + 1) route (x.again left (k + 1) route)
      (x.launched (x.script (k + 1)) launch deadline)) y := by
  rw [step_run, Session.step_confirming rfl rfl] at h
  obtain ⟨_, hz, rfl⟩ := Option.map_eq_some_iff.mp h
  clear h
  split at hz
  · rename_i e he
    obtain ⟨life, hlife, hle, rfl⟩ := exit_ofScript.mp he
    obtain rfl : launch + life = now := Nat.le_antisymm hle (ht life hlife)
    cases hz
    simp only [launched, hlife, if_pos hc]
    unfold CaptureScript.early
    cases (x.script (k + 1)).exit with
    | error e => exact tracks_fail hv hr hl (.inr (.inr rfl)) e
    | ok r => exact tracks_fail hv hr hl (.inr (.inr rfl)) (.earlyExit r)
  · rename_i he
    obtain ⟨hle, hz⟩ := Option.ite_none_right_eq_some.mp hz
    cases hz
    have hnow : min (launch + x.confirm) deadline = now := Nat.le_antisymm hle hc
    have hlife := exit_ofScript_none.mp he
    have hlaunched : x.launched (x.script (k + 1)) launch deadline =
        { running := some now
          ending := (x.script (k + 1)).lifetime.map fun life => (launch + life, (x.script (k + 1)).late) } := by
      unfold launched
      cases hs : (x.script (k + 1)).lifetime with
      | none => simp [hnow]
      | some life => simp [hnow, Nat.not_le.mpr (hlife life hs)]
    let confirmed : SessionRecord := { record with error := none, state := .running, changed := clock }
    have hconfirm : reacted launcher now (.capture (.ofScript (x.script (k + 1)) launch)) shown
        ((x.run record k (.confirming (min (launch + x.confirm) deadline))
          (.capture (.ofScript (x.script (k + 1)) launch)) shown).session.confirm
            ((x.run record k (.confirming (min (launch + x.confirm) deadline))
              (.capture (.ofScript (x.script (k + 1)) launch)) shown).view now clock es)) =
        (x.run confirmed k .running (.capture (.ofScript (x.script (k + 1)) launch)) confirmed,
          { events := [.sessionChanged x.target (some .starting) .running (k + 1) (some route) none] }) := by
      simp [reacted, run, Session.confirm, Session.enter, SessionRun.perform, SessionRun.view, confirmed, hr.target,
        hr.attempt, hr.route, hr.state]
    rw [hconfirm, hlaunched]
    refine ⟨_, rfl, .running ⟨hr.target, hr.attempt, hr.route, rfl⟩ hl ht⟩

/-- A launch that has not returned is given up when the plan has it. -/
theorem keeps_abandoned (hv : x.config.validate = .ok ()) {start : Nat} {hold : Hold}
    (hr : x.Tells (k + 1) route .starting record) (hl : left + k = x.config.supervisor.maxRetries)
    (hlate : ∀ time ∈ (x.script (k + 1)).launchTime, start + x.timeout < start + time)
    (hnow : start + x.timeout = now) :
    Keeps x now (x.followed (k + 1) route (x.again left (k + 1) route) (x.attempt (x.script (k + 1)) start))
      (reacted launcher now hold shown
        (((x.run record k (.launching (start + x.timeout)) hold shown).session.fail
          ((x.run record k (.launching (start + x.timeout)) hold shown).view now clock es) x.tooLate).after
            [.abandon])) := by
  have hattempt : x.attempt (x.script (k + 1)) start = { ending := some (now, .error x.tooLate) } := by
    unfold attempt
    cases hs : (x.script (k + 1)).launchTime with
    | none => simp only [hnow]
    | some time =>
      rw [← hnow]
      exact if_pos (hlate time hs)
  rw [hattempt]
  exact tracks_fail hv hr hl (.inr (.inl rfl)) x.tooLate

/-- A launched capture is kept. -/
theorem keeps_kept (hv : x.config.validate = .ok ()) {returns : Option Nat} {hold : Hold}
    (hr : x.Tells (k + 1) route .starting record) (hl : left + k = x.config.supervisor.maxRetries)
    (hd : now ≤ deadline) :
    Keeps x now (x.followed (k + 1) route (x.again left (k + 1) route) (x.launched (x.script (k + 1)) now deadline))
      (reacted launcher now (.launch (x.script (k + 1)) returns) shown
        ((x.run record k (.launching deadline) hold shown).session.launched
          ((x.run record k (.launching deadline) hold shown).view now clock es) deadline (.ok ()))) := by
  have hkeep : reacted launcher now (.launch (x.script (k + 1)) returns) shown
        ((x.run record k (.launching deadline) hold shown).session.launched
          ((x.run record k (.launching deadline) hold shown).view now clock es) deadline (.ok ())) =
      (x.run record k (.confirming (min (now + x.confirm) deadline))
        (.capture (.ofScript (x.script (k + 1)) now)) shown, {}) := by
    simp [reacted, run, Session.launched, SessionRun.perform, SessionRun.view, deadline_confirm hv]
  have hconfirmed : now ≤ min (now + x.confirm) deadline := Nat.le_min.mpr ⟨Nat.le_add_right .., hd⟩
  rw [hkeep]
  exact ⟨_, rfl, .confirming hr hl hconfirmed fun _ _ => Nat.le_add_right ..⟩

/-- A launch ends when the plan has it. -/
theorem keeps_launching {start : Nat} (hv : x.config.validate = .ok ()) (hr : x.Tells (k + 1) route .starting record)
    (hl : left + k = x.config.supervisor.maxRetries) (hd : now ≤ start + x.timeout)
    (ht : ∀ time ∈ (x.script (k + 1)).launchTime, now ≤ start + time)
    (h : (x.run record k (.launching (start + x.timeout))
      (.launch (x.script (k + 1)) ((x.script (k + 1)).launchTime.map (start + ·))) shown).step launcher now clock es =
      some y) :
    Keeps x now (x.followed (k + 1) route (x.again left (k + 1) route) (x.attempt (x.script (k + 1)) start)) y := by
  rw [step_run, Session.step_launching rfl rfl] at h
  obtain ⟨_, hz, rfl⟩ := Option.map_eq_some_iff.mp h
  clear h
  split at hz
  · rename_i result hresult
    obtain ⟨time, htime, hle, rfl⟩ := launched_launch.mp hresult
    obtain rfl : start + time = now := Nat.le_antisymm hle (ht time htime)
    cases hz
    simp only [attempt, htime, if_neg (Nat.not_lt.mpr hd)]
    cases (x.script (k + 1)).started with
    | error e => exact tracks_fail hv hr hl (.inl rfl) e
    | ok _ => exact keeps_kept hv hr hl hd
  · rename_i hresult
    obtain ⟨hle, hz⟩ := Option.ite_none_right_eq_some.mp hz
    cases hz
    have hnow : start + x.timeout = now := Nat.le_antisymm hle hd
    exact keeps_abandoned hv hr hl (fun time htime => hnow ▸ launched_launch_none.mp hresult time htime) hnow

end

/-- The attempt that begins next. -/
def upcoming (r : SessionRun) : Nat := r.session.record.attempt + 1

/-- Whatever a session does at an instant, the plan has it then. -/
theorem Tracks.keeps (hv : x.config.validate = .ok ()) (h : Tracks x now r rest)
    (hlaunch : ∀ l, l.attempt = upcoming r → launcher l = x.script (upcoming r)) {y : SessionRun × SessionTrace}
    (hy : r.step launcher now clock (x.seen (upcoming r)) = some y) : Keeps x now rest y := by
  cases h with
  | fresh time =>
    have hstep : ({ session := .ofTarget x.config.sessionOptions x.target time } : SessionRun).step launcher now clock
          (x.seen 1) = some (reacted launcher now .nothing (.fresh x.target time)
            ((Session.ofTarget x.config.sessionOptions x.target time).begin
              { now, clock, endpoints := x.seen 1 })) := rfl
    obtain rfl := Option.some.inj (hstep.symm.trans hy)
    exact tracks_begin hv hlaunch rfl rfl rfl rfl rfl rfl rfl rfl
  | launching hr hl hd ht => exact keeps_launching hv hr hl hd ht hy
  | confirming hr hl hc ht => exact keeps_confirming hv hr hl hc ht hy
  | running hr hl ht => exact keeps_running hv hr hl ht hy
  | resting hr hl hw =>
    obtain rfl := hr.attempt
    exact keeps_resting hv hr hl hw hlaunch hy
  | done hp =>
    have hnone : r.step launcher now clock (x.seen (upcoming r)) = none := by
      rw [SessionRun.step, Session.step_of_done hp]
      simp
    rw [hnone] at hy
    cases hy

theorem mem_due {t : Nat} : t ∈ r.due ↔ r.session.wake? = some t ∨ r.hold.due? = some t := by
  simp [SessionRun.due, eq_comm]

theorem lt_of_ite_none {α : Type} {a : α} {t : Nat} (h : (if t ≤ now then some a else none) = none) : now < t :=
  Nat.lt_of_not_le fun hle => Option.some_ne_none a (ite_eq_right_iff.mp h hle)

/-- What a waiting session waits for is still to come: up to then its plan stays as it is. -/
theorem Tracks.pass (h : Tracks x now r rest) (hstep : r.step launcher now clock es = none)
    (hdue : ∀ t ∈ r.due, now < t → now' ≤ t) : Tracks x now' r rest := by
  cases h with
  | fresh => cases hstep
  | launching hr hl =>
    rw [step_run, Session.step_launching rfl rfl, Option.map_eq_none_iff] at hstep
    split at hstep
    · cases hstep
    · rename_i hresult
      refine .launching hr hl (hdue _ (mem_due.mpr (.inl rfl)) (lt_of_ite_none hstep)) fun time htime => ?_
      exact hdue _ (mem_due.mpr (.inr (Option.map_eq_some_iff.mpr ⟨time, htime, rfl⟩)))
        (launched_launch_none.mp hresult time htime)
  | confirming hr hl =>
    rw [step_run, Session.step_confirming rfl rfl, Option.map_eq_none_iff] at hstep
    split at hstep
    · cases hstep
    · rename_i hexit
      refine .confirming hr hl (hdue _ (mem_due.mpr (.inl rfl)) (lt_of_ite_none hstep)) fun life hlife => ?_
      exact hdue _ (mem_due.mpr (.inr (Option.map_eq_some_iff.mpr ⟨life, hlife, rfl⟩)))
        (exit_ofScript_none.mp hexit life hlife)
  | running hr hl =>
    rw [step_run, Session.step_running rfl rfl, Option.map_eq_none_iff, Option.map_eq_none_iff] at hstep
    refine .running hr hl fun life hlife => ?_
    exact hdue _ (mem_due.mpr (.inr (Option.map_eq_some_iff.mpr ⟨life, hlife, rfl⟩)))
      (exit_ofScript_none.mp hstep life hlife)
  | resting hr hl =>
    rw [step_run, Session.step_resting rfl rfl, Option.map_eq_none_iff] at hstep
    exact .resting hr hl (hdue _ (mem_due.mpr (.inl rfl)) (lt_of_ite_none hstep))
  | done hp => exact .done hp

end Scenario
end ProxyWatch
