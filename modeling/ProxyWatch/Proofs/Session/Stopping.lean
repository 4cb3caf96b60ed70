import ProxyWatch.Proofs.Session.Shutdown

/-! What a request to stop comes to, in terms of what a session does, reports and leaves to be seen. -/
namespace ProxyWatch

open Session Moment

/-- What a session does after it was asked to stop at `m`. -/
structure Stops (first : SessionRecord) (m m' : Moment) (news : List (Nat × SessionAct)) : Prop where
  log_eq : m'.log = m.log ++ news
  no_launch : ∀ a ∈ news, a.2.isLaunch = false
  /-- The stop is the only thing that is reported, and a waiting caller sees it. -/
  reports : (reportsOf news = [] ∧ m'.outcome? first = none) ∨
    ∃ t, StoppedAt news t ∧ m'.outcome? first = some .stopped

/-- A session that holds no capture stops at the instant at which it is asked to. -/
structure StopsAtOnce (m m' : Moment) (news : List (Nat × SessionAct)) : Prop where
  at_once : ∀ a ∈ news, a.1 = m.now
  untouched : ∀ a ∈ news, a.2 ≠ .terminate ∧ a.2 ≠ .kill
  stopped : m.now < m'.now → StoppedAt news m.now

/-- A session that holds a capture gives it the grace period to end. -/
structure StopsInGrace (w : World) (m m' : Moment) (news : List (Nat × SessionAct)) : Prop where
  grace : m.graceEnd ≤ m.now + m.session.options.stopGrace.millisUp
  /-- The capture is asked to end first of all, at once and only once. -/
  asked : (news = [] ∧ m'.now = m.now) ∨
    ∃ rest, news = (m.now, .terminate) :: rest ∧ ∀ a ∈ rest, a.2 ≠ .terminate
  killed_once : news.countP (·.2 = .kill) ≤ 1
  not_obeys : ∀ k, (k, .kill) ∈ news → k ≤ m.graceEnd ∧ ¬ Obeys w m
  killed : ¬ Obeys w m → m.graceEnd < m'.now → ∃ k, (k, .kill) ∈ news
  /-- A capture that ends within the grace period stops the session at that instant. -/
  obeyed : ∀ t x, Returns w m t (.ok x) → t ≤ m.graceEnd →
    (∀ y, StoppedAt news y → y = t) ∧ (t < m'.now → StoppedAt news t)
  /-- The session stops no later than the grace period and the time that a kill takes. -/
  bounded : ∀ d, (∀ k, (k, .kill) ∈ news → ∃ u, u ≤ k + d ∧ KillReturns w m k u) →
    (∀ y, StoppedAt news y → y ≤ m.graceEnd + d) ∧
      (m.graceEnd + d < m'.now → ∃ y, StoppedAt news y)

section
variable {w : World} {m m' : Moment} {first r : SessionRecord} {p : Option SessionState}
  {pre acts : List SessionAct} {news log : List (Nat × SessionAct)} {t t' : Nat}

theorem StoppedAt.eq (h : StoppedAt log t) (h' : StoppedAt log t') : t = t' := by
  obtain ⟨e, _, he, _⟩ := h
  obtain ⟨e', _, he', _⟩ := h'
  simp_all

theorem not_stoppedAt (h : reportsOf log = []) : ¬ StoppedAt log t := by
  rintro ⟨e, _, he, _⟩
  simp [h] at he

theorem acts_eq (ha : m'.log = m.log ++ news) : m'.acts = m.acts ++ news.map (·.2) := by
  simp [Course.acts, ha]

theorem displayed_of_silent (h : ∀ a ∈ acts, a.Silent) : displayed r acts = r := by
  induction acts generalizing r with
  | nil => rfl
  | cons a acts ih =>
    rw [displayed, List.foldl_cons, (h a (by simp)).shown]
    exact ih fun b hb => h b (by simp [hb])

/-- Nothing is to be seen while nothing is reported. -/
theorem outcome_of_silent (hm : m.outcome? first = none) (ha : m'.log = m.log ++ news)
    (hq : ∀ a ∈ news.map (·.2), a.Silent) (hp : m'.session.phase ≠ .vanished) :
    m'.outcome? first = none := by
  unfold Course.outcome? SessionRecord.outcome? at hm ⊢
  rw [acts_eq ha, displayed_append, displayed_of_silent hq]
  split at hm
  · simp at hm
  · simp_all

theorem outcome_of_stopped (ha : m'.log = m.log ++ news)
    (hn : news.map (·.2) = pre ++ announcement p r) (hr : r.state = .stopped) :
    m'.outcome? first = some .stopped := by
  unfold Course.outcome? SessionRecord.outcome?
  rw [acts_eq ha, hn, ← List.append_assoc, displayed_append, displayed_announcement]
  simp [hr, SessionState.isTerminal]

/-! Sessions that hold no capture -/

theorem Moment.Ceasing.stops (h : Ceasing m m') (hm : m.outcome? first = none)
    (hv : m.session.phase ≠ .vanished) :
    ∃ news, Stops first m m' news ∧ StopsAtOnce m m' news := by
  cases h with
  | asked =>
    have ha : m.stop.log = m.log ++ [] := (List.append_nil _).symm
    refine ⟨[], ⟨ha, by simp, .inl ⟨rfl, ?_⟩⟩, ⟨by simp, by simp, ?_⟩⟩
    · exact outcome_of_silent hm ha (by simp) hv
    · intro hn
      exact (Nat.lt_irrefl _ hn).elim
  | @done s pre p r now hp hr ha hn =>
    have hs : StoppedAt ((pre ++ announcement p r).map (m.now, ·)) m.now := by
      rcases ha with rfl | rfl <;> exact ⟨_, r.transition p, rfl, rfl, hr⟩
    have hm : ((pre ++ announcement p r).map (m.now, ·)).map (·.2) = pre ++ announcement p r := by
      simp [Function.comp_def]
    refine ⟨_, ⟨rfl, ?_, .inr ⟨m.now, hs, ?_⟩⟩, ⟨?_, ?_, fun _ => hs⟩⟩
    · rcases ha with rfl | rfl <;> simp [announcement, SessionAct.isLaunch]
    · exact outcome_of_stopped rfl hm hr
    · intro a ha
      obtain ⟨_, _, rfl⟩ := List.mem_map.mp ha
      rfl
    · rcases ha with rfl | rfl <;> simp [announcement]

/-! Sessions that hold a capture -/

theorem graceEnd_le : m.graceEnd ≤ m.now + m.session.options.stopGrace.millisUp := by
  have hr : Clock.reach = 9223372036854775807 := by decide
  unfold graceEnd Clock.timer Clock.endOr
  split
  · exact le_rfl
  · rename_i hs
    simp only [hr, Duration.seconds, Duration.perSecond] at hs
    simp only [Clock.day, Duration.millisUp]
    omega

theorem stopsInGrace_asked : StopsInGrace w m m.stop [] where
  grace := graceEnd_le
  asked := .inl ⟨rfl, rfl⟩
  killed_once := by simp
  not_obeys := by simp
  killed _ hd := (Nat.not_lt.mpr now_le_graceEnd hd).elim
  obeyed t x hx _ :=
    ⟨fun y hy => (not_stoppedAt rfl hy).elim, fun ht => (Nat.not_lt.mpr hx.begun ht).elim⟩
  bounded d _ :=
    ⟨fun y hy => (not_stoppedAt rfl hy).elim, fun hd => by
      have hg : m.now ≤ m.graceEnd := now_le_graceEnd
      have hn : m.stop.now = m.now := rfl
      omega⟩

theorem stopsInGrace_ending (hd : m'.now ≤ m.graceEnd) (hw : Waits w m m'.now) :
    StopsInGrace w m m' [(m.now, .terminate)] where
  grace := graceEnd_le
  asked := .inr ⟨[], rfl, by simp⟩
  killed_once := by simp
  not_obeys := by simp
  killed _ hg := (Nat.not_lt.mpr hd hg).elim
  obeyed t x hx _ := by
    refine ⟨fun y hy => (not_stoppedAt rfl hy).elim, fun ht => ?_⟩
    have he := hx.exit_eq
    simp [hw t hx.begun ht] at he
  bounded d _ :=
    ⟨fun y hy => (not_stoppedAt rfl hy).elim, fun hg => by omega⟩

theorem stopsInGrace_killing {k : Nat} (hk : Kills w m k) (hw : KillPends w m k m'.now) :
    StopsInGrace w m m' [(m.now, .terminate), (k, .kill)] where
  grace := graceEnd_le
  asked := .inr ⟨_, rfl, by simp⟩
  killed_once := by simp
  not_obeys := by
    intro k' hm
    obtain rfl : k' = k := by simpa using hm
    exact ⟨hk.in_grace, hk.not_obeys⟩
  killed _ _ := ⟨k, by simp⟩
  obeyed t x hx ht := (hk.not_obeys ⟨t, x, hx, ht⟩).elim
  bounded d hd := by
    refine ⟨fun y hy => (not_stoppedAt rfl hy).elim, fun hg => ?_⟩
    obtain ⟨u, hu, hr⟩ := hd k (by simp)
    have hin := hk.in_grace
    have he := hr.killed_eq
    simp [hw u hr.begun (by omega)] at he

theorem stopsInGrace_obeyed {x : ExitReport} (hx : Returns w m t (.ok x)) (ht : t ≤ m.graceEnd)
    (hr : r.state = .stopped) :
    StopsInGrace w m m' ((m.now, .terminate) :: (.release :: announcement p r).map (t, ·)) := by
  have hs : StoppedAt ((m.now, .terminate) :: (.release :: announcement p r).map (t, ·)) t :=
    ⟨_, r.transition p, rfl, rfl, hr⟩
  constructor
  case grace => exact graceEnd_le
  case asked => exact .inr ⟨_, rfl, by simp [announcement]⟩
  case killed_once => simp [announcement]
  case not_obeys => simp [announcement]
  case killed =>
    intro ho
    exact (ho ⟨t, x, hx, ht⟩).elim
  case obeyed =>
    intro t' x' hx' _
    obtain rfl := hx.eq hx'
    exact ⟨fun y hy => hy.eq hs, fun _ => hs⟩
  case bounded =>
    intro d _
    refine ⟨fun y hy => ?_, fun _ => ⟨t, hs⟩⟩
    rw [hy.eq hs]
    omega

theorem stopsInGrace_killed {k : Nat} (hk : Kills w m k) (hx : KillReturns w m k t)
    (hr : r.state = .stopped) :
    StopsInGrace w m m'
      ((m.now, .terminate) :: (k, .kill) :: (.release :: announcement p r).map (t, ·)) := by
  have hs : StoppedAt
      ((m.now, .terminate) :: (k, .kill) :: (.release :: announcement p r).map (t, ·)) t :=
    ⟨_, r.transition p, rfl, rfl, hr⟩
  constructor
  case grace => exact graceEnd_le
  case asked => exact .inr ⟨_, rfl, by simp [announcement]⟩
  case killed_once => simp [announcement]
  case not_obeys =>
    intro k' hm
    obtain rfl : k' = k := by simpa [announcement] using hm
    exact ⟨hk.in_grace, hk.not_obeys⟩
  case killed => exact fun _ _ => ⟨k, by simp⟩
  case obeyed =>
    intro t' x' hx' ht'
    exact (hk.not_obeys ⟨t', x', hx', ht'⟩).elim
  case bounded =>
    intro d hd
    obtain ⟨u, hu, hu'⟩ := hd k (by simp)
    have hin := hk.in_grace
    refine ⟨fun y hy => ?_, fun _ => ⟨t, hs⟩⟩
    rw [hy.eq hs, hx.eq hu']
    omega

theorem Moment.Shutting.stops (h : Shutting w m m') (hm : m.outcome? first = none)
    (hv : m.session.phase ≠ .vanished) :
    ∃ news, Stops first m m' news ∧ StopsInGrace w m m' news := by
  cases h with
  | asked =>
    have ha : m.stop.log = m.log ++ [] := (List.append_nil _).symm
    refine ⟨[], ⟨ha, by simp, .inl ⟨rfl, ?_⟩⟩, stopsInGrace_asked⟩
    exact outcome_of_silent hm ha (by simp) hv
  | ending hp hn hd hw =>
    refine ⟨_, ⟨rfl, ?_, .inl ⟨rfl, ?_⟩⟩, stopsInGrace_ending hd hw⟩
    · simp [SessionAct.isLaunch]
    · exact outcome_of_silent hm rfl (by simp [SessionAct.Silent]) (by simp [hp])
  | @killing s now k hp hk hn hw =>
    have ha : m.killed k = m.log ++ [(m.now, .terminate), (k, .kill)] := by
      simp [Moment.killed, Moment.asked]
    refine ⟨_, ⟨ha, ?_, .inl ⟨rfl, ?_⟩⟩, stopsInGrace_killing hk hw⟩
    · simp [SessionAct.isLaunch]
    · exact outcome_of_silent hm ha (by simp [SessionAct.Silent]) (by simp [hp])
  | @obeyed s now t x p r hp hr hx hd hn =>
    have ha : m.asked ++ (.release :: announcement p r).map (t, ·) =
        m.log ++ (m.now, .terminate) :: (.release :: announcement p r).map (t, ·) := by
      simp [Moment.asked]
    refine ⟨_, ⟨ha, ?_, .inr ⟨t, ⟨_, r.transition p, rfl, rfl, hr⟩, ?_⟩⟩, stopsInGrace_obeyed hx hd hr⟩
    · simp [announcement, SessionAct.isLaunch]
    · exact outcome_of_stopped ha (show _ = [.terminate, .release] ++ announcement p r from rfl) hr
  | @killed s now k t p r hp hr hk hx hn =>
    have ha : m.killed k ++ (.release :: announcement p r).map (t, ·) =
        m.log ++ (m.now, .terminate) :: (k, .kill) :: (.release :: announcement p r).map (t, ·) := by
      simp [Moment.killed, Moment.asked]
    refine ⟨_, ⟨ha, ?_, .inr ⟨t, ⟨_, r.transition p, rfl, rfl, hr⟩, ?_⟩⟩, stopsInGrace_killed hk hx hr⟩
    · simp [announcement, SessionAct.isLaunch]
    · exact outcome_of_stopped ha (show _ = [.terminate, .kill, .release] ++ announcement p r from rfl) hr

end

/-! The contract -/

/-- What a request to stop at `m` comes to by `m'`. -/
structure StopContract (w : World) (first : SessionRecord) (m m' : Moment) : Prop where
  live : m.outcome? first = none → ∃ news, Stops first m m' news ∧
    (holding m.acts = false → StopsAtOnce m m' news) ∧
    (holding m.acts = true → StopsInGrace w m m' news)
  finished : m.outcome? first ≠ none → m'.log = m.log ∧ m'.outcome? first = m.outcome? first
  /-- A session is finished without a final state only if its last delay was no span of time. -/
  broken_off : m.outcome? first ≠ none → (displayed first m.acts).state.isTerminal = false →
    m.session.options.retry.backoff.delay? m.session.retries = none
  /-- No instant is out of reach. -/
  goes_on : ∀ t, ∃ n, t ≤ (m'.proceed w n).now

/-- What is known of a session that nobody has asked to stop. -/
structure Unasked (first : SessionRecord) (m : Moment) : Prop where
  stopping_eq : m.session.stopping = false
  ordered : m.session.Ordered
  holding_eq : holding m.acts = m.session.phase.holds
  telling : Telling first m.session m.acts

namespace Unasked

variable {w : World} {first : SessionRecord} {m : Moment}

theorem outcome_eq (h : Unasked first m) :
    m.outcome? first = m.session.record.outcome? (m.session.phase = .vanished) := by
  rw [Course.outcome?, h.telling.told.current_eq]

theorem outcome_eq_none_iff (h : Unasked first m) :
    m.outcome? first = none ↔ m.session.phase ≠ .over ∧ m.session.phase ≠ .vanished := by
  have hf := h.telling.final
  rw [h.outcome_eq]
  unfold SessionRecord.outcome?
  split <;> simp_all [Final]

/-- A session that holds a capture and was not asked to stop has not begun to end it. -/
theorem phase_of_holds (h : Unasked first m) (hh : m.session.phase.holds = true) :
    m.session.phase = .running ∨ ∃ t, m.session.phase = .confirming t := by
  have ho := h.ordered
  rw [Session.Ordered, h.stopping_eq] at ho
  cases hp : m.session.phase <;> simp_all [Phase.holds]

theorem live (h : Unasked first m) (hm : m.outcome? first = none) (after : List Turn) :
    ∃ news, Stops first m (m.stop.run w after) news ∧
      (holding m.acts = false → StopsAtOnce m (m.stop.run w after) news) ∧
      (holding m.acts = true → StopsInGrace w m (m.stop.run w after) news) := by
  obtain ⟨ho, hv⟩ := h.outcome_eq_none_iff.mp hm
  rw [h.holding_eq]
  cases hh : m.session.phase.holds with
  | false =>
    have hc : Ceasing m (m.stop.run w after) :=
      run_induction (P := Ceasing m) .asked (fun _ => ceasing_stop) (fun _ => ceasing_go hh ho hv) after
    obtain ⟨news, hs, ha⟩ := hc.stops hm hv
    exact ⟨news, hs, fun _ => ha, by simp⟩
  | true =>
    have hc : Shutting w m (m.stop.run w after) :=
      run_induction (P := Shutting w m) .asked (fun _ => shutting_stop) (fun _ => shutting_go (h.phase_of_holds hh)) after
    obtain ⟨news, hs, ha⟩ := hc.stops hm hv
    exact ⟨news, hs, by simp, fun _ => ha⟩

/-- A finished session does nothing, and nothing else is to be seen of it. -/
theorem finished (h : Unasked first m) (hm : m.outcome? first ≠ none) (turns : List Turn) :
    (m.run w turns).log = m.log ∧ (m.run w turns).outcome? first = m.outcome? first := by
  have hp : m.session.phase = .over ∨ m.session.phase = .vanished := by
    by_contra hn
    exact hm (h.outcome_eq_none_iff.mpr (not_or.mp hn))
  have hk : (m.run w turns).log = m.log ∧ (m.run w turns).session.phase = m.session.phase := by
    apply run_induction (P := fun m' => m'.log = m.log ∧ m'.session.phase = m.session.phase)
    · exact ⟨rfl, rfl⟩
    · intro m' hm'
      exact hm'
    · intro m' hm'
      rw [go_of_wait (Session.step_of_done (hm'.2.symm ▸ hp))]
      exact hm'
  refine ⟨hk.1, ?_⟩
  simp only [Course.outcome?, Course.acts, hk.1, hk.2]

theorem broken_off (h : Unasked first m) (hm : m.outcome? first ≠ none)
    (hd : (displayed first m.acts).state.isTerminal = false) :
    m.session.options.retry.backoff.delay? m.session.retries = none := by
  apply RetryPolicy.delay_eq_none
  apply h.telling.budget.vanished
  by_contra hv
  refine hm (h.outcome_eq_none_iff.mpr ⟨fun ho => ?_, hv⟩)
  rw [h.telling.told.current_eq, h.telling.final.mpr ho] at hd
  cases hd

end Unasked

theorem unasked_proceed (w : World) (o : SessionOptions) (target : String) (clock : Timestamp)
    (start n : Nat) : Unasked (.fresh target clock) ((ofTarget o target clock start).proceed w n) := by
  obtain ⟨cues, hc⟩ := run_follows w (ofTarget o target clock start) (List.replicate n .go)
  refine ⟨stopping_proceed n, ?_, ?_, ?_⟩
  · apply proceed_induction (P := fun m => m.session.Ordered)
    · simp [Session.Ordered, Moment.ofTarget, Course.ofTarget, Session.ofTarget]
    · intro m hm
      rcases go_cases w m with ⟨_, hg⟩ | ⟨s, acts, _, hs, hg⟩ <;> rw [hg]
      · exact hm
      · exact hs.ordered hm
  · rw [proceed, hc]
    exact Course.holding_eq o target clock cues
  · rw [proceed, hc]
    exact (Course.telling o target clock cues).2

/-- Whenever a session is first asked to stop, it keeps the contract, and asking again changes nothing. -/
theorem stop_keeps_contract (w : World) (o : SessionOptions) (target : String) (clock : Timestamp)
    (start n : Nat) (after : List Turn) :
    let m := (ofTarget o target clock start).proceed w n
    StopContract w (.fresh target clock) m (m.run w (.stop :: after)) ∧
      m.run w (.stop :: after) = m.run w (.stop :: after.filter (· = .go)) := by
  intro m
  have hu : Unasked (.fresh target clock) m := unasked_proceed w o target clock start n
  constructor
  · constructor
    case live => exact fun hm => hu.live hm after
    case finished => exact fun hm => hu.finished hm (.stop :: after)
    case broken_off => exact hu.broken_off
    case goes_on =>
      apply exists_le_now
      apply run_induction (P := fun m' => m'.session.stopping = true) (m := m.stop) rfl
      · exact fun _ _ => rfl
      · intro m' hm'
        rw [stopping_go, hm']
  · exact (run_filter_go (m := m.stop) rfl after).symm

end ProxyWatch
