import ProxyWatch.Proofs.Session.Words

/-! The story that a session tells: its reports form a word, are numbered and chained, stay within the retry
budget, and what is displayed keeps up with them. -/
namespace ProxyWatch

open Session

/-- The states that acts report, in order. -/
def statesOf (acts : List SessionAct) : List SessionState := (transitions acts).map (·.current)

/-- The acts neither report, nor display, nor launch. -/
def Quiet (acts : List SessionAct) : Prop := ∀ a ∈ acts, a.Silent ∧ a.isLaunch = false

section
variable {s s' : Session} {v : SessionView} {acts acts' : List SessionAct} {e : ProcessError}
  {first r : SessionRecord} {p : Option SessionState}

theorem statesOf_append : statesOf (acts ++ acts') = statesOf acts ++ statesOf acts' := by
  simp [statesOf, transitions_append]

theorem statesOf_announcement : statesOf (announcement p r) = [r.state] := rfl

theorem countP_announcement : (announcement p r).countP SessionAct.isLaunch = 0 := rfl

theorem quiet_nil : Quiet [] := by simp [Quiet]

theorem quiet_abandon : Quiet [.abandon] := by simp [Quiet, SessionAct.Silent, SessionAct.isLaunch]

theorem quiet_release : Quiet [.release] := by simp [Quiet, SessionAct.Silent, SessionAct.isLaunch]

theorem Quiet.statesOf (h : Quiet acts) : statesOf acts = [] := by
  have ht : transitions acts = [] := List.filterMap_eq_nil_iff.mpr fun a ha => (h a ha).1.transition
  simp [ProxyWatch.statesOf, ht]

theorem Quiet.countP (h : Quiet acts) : acts.countP SessionAct.isLaunch = 0 :=
  List.countP_eq_zero.mpr fun a ha => by simp [(h a ha).2]

theorem Told.quiet (h : Told first r p acts) (hq : Quiet acts') : Told first r p (acts ++ acts') := by
  induction acts' generalizing acts with
  | nil => simpa using h
  | cons a acts' ih =>
    rw [List.append_cons]
    exact ih (h.silent (hq a (by simp)).1) fun b hb => hq b (by simp [hb])

theorem Session.Failure.quiet (h : Failure s v acts e) : Quiet acts := by
  cases h
  case launch => exact quiet_nil
  case timeout => exact quiet_abandon
  all_goals exact quiet_release

theorem Session.Stop.quiet (h : Stop s v acts) : Quiet acts := by
  cases h
  case fresh | resting => exact quiet_nil
  case launching => exact quiet_abandon
  all_goals exact quiet_release

/-- A session that is over does nothing. -/
theorem Session.Step.phase_ne_over (h : Step s v s' acts) : s.phase ≠ .over := by
  intro ho
  cases h with
  | refused hp | launched hp => rcases hp with hp | ⟨_, hp, _⟩ <;> simp [ho] at hp
  | kept hp | confirmed hp | killed hp => simp [ho] at hp
  | rested _ hf | spent _ hf | vanished _ hf => cases hf <;> simp_all
  | shutDown hp => rcases hp with hp | ⟨_, hp⟩ <;> simp [ho] at hp
  | stopped hp => cases hp <;> simp_all

theorem Session.Step.options_eq (h : Step s v s' acts) : s'.options = s.options := by
  cases h <;> rfl

/-- Only a session that is over displays a final state. -/
def Final (s : Session) : Prop := s.record.state.isTerminal = true ↔ s.phase = .over

theorem final_live (hf : Final s) (h : Step s v s' acts) : s.record.state.isTerminal = false := by
  simpa using mt hf.mp h.phase_ne_over

theorem final_step (hf : Final s) (h : Step s v s' acts) : Final s' := by
  have hl := final_live hf h
  cases h <;> simp_all [Final, SessionState.isTerminal, opening, failing]

theorem told_step (ht : Told first s.record s.previous acts) (hf : Final s)
    (h : Step s v s' acts') : Told first s'.record s'.previous (acts ++ acts') := by
  have hl := final_live hf h
  cases h with
  | @refused e =>
    have hs : Told first (s.opening v none (some e.message)) (some .starting) _ :=
      ht.announcement hl rfl rfl (by simp [opening])
    rw [← List.append_assoc]
    exact hs.announcement rfl rfl rfl (by simp [opening])
  | launched =>
    rw [← List.append_assoc]
    refine Told.silent (ht.announcement hl ?_ ?_ ?_) ?_ <;> simp [opening, SessionAct.Silent]
  | kept | shutDown | killed => exact ht.silent (by simp [SessionAct.Silent])
  | rested _ hq | vanished _ hq =>
    rw [← List.append_assoc]
    refine (ht.quiet hq.quiet).announcement hl ?_ ?_ ?_ <;> simp [failing]
  | @spent pre e _ hq =>
    have hr : Told first (s.failing v e) (some .retrying) _ :=
      (ht.quiet hq.quiet).announcement hl rfl rfl (by simp [failing])
    rw [← List.append_assoc, ← List.append_assoc]
    exact hr.announcement rfl rfl rfl (by simp [failing])
  | confirmed => exact ht.announcement hl rfl rfl (by simp)
  | stopped hq =>
    rw [← List.append_assoc]
    exact (ht.quiet hq.quiet).announcement hl rfl rfl (by simp)

/-! Words -/

theorem Session.Starts.word (h : s.Starts v) (hw : statesOf acts ∈ s.phase.word.matches') :
    statesOf acts ∈ failureWord.star.matches' := by
  rcases h with hp | ⟨_, hp, _⟩ <;> rw [hp] at hw
  · have he : statesOf acts = [] := hw
    rw [he]
    exact nil_mem_star
  · exact hw

theorem Session.Failure.word (h : Failure s v acts' e) (hw : statesOf acts ∈ s.phase.word.matches') :
    statesOf acts ∈ (failureWord.star * attemptWord).matches' := by
  cases h with
  | launch hp | timeout hp | early hp | earlyError hp =>
    rw [hp] at hw
    exact starting_mem_attempt hw
  | crash hp | runError hp =>
    rw [hp] at hw
    exact running_mem_attempt hw

theorem Session.Stop.word (h : Stop s v acts') (hw : statesOf acts ∈ s.phase.word.matches') :
    statesOf acts ++ [.stopped] ∈ sessionWord.matches' := by
  cases h with
  | fresh hp =>
    exact concat_stopped_of_star (Starts.word (v := v) (.inl hp) hw)
  | resting hp =>
    rw [hp] at hw
    exact concat_stopped_of_star hw
  | launching hp =>
    rw [hp] at hw
    exact concat_stopped_of_attempt (starting_mem_attempt hw)
  | completed hp =>
    rw [hp] at hw
    exact concat_stopped_of_attempt (running_mem_attempt hw)
  | ended hp | killed hp =>
    rw [hp] at hw
    exact concat_stopped_of_attempt hw

theorem word_step (hw : statesOf acts ∈ s.phase.word.matches') (h : Step s v s' acts') :
    statesOf (acts ++ acts') ∈ s'.phase.word.matches' := by
  rw [statesOf_append]
  cases h with
  | refused hp => exact concat_refused (hp.word hw)
  | launched hp =>
    rw [statesOf_append, statesOf_announcement]
    exact concat_starting (hp.word hw)
  | kept hp | killed hp =>
    rw [hp] at hw
    exact (List.append_nil _).symm ▸ hw
  | rested _ hf | vanished _ hf =>
    rw [statesOf_append, hf.quiet.statesOf]
    exact failure_mem_star (concat_retrying (hf.word hw))
  | spent _ hf =>
    rw [statesOf_append, hf.quiet.statesOf]
    exact concat_spent (hf.word hw)
  | confirmed hp =>
    rw [hp] at hw
    exact concat_running hw
  | shutDown hp =>
    rcases hp with hp | ⟨_, hp⟩ <;> rw [hp] at hw
    · exact (List.append_nil _).symm ▸ running_mem_attempt hw
    · exact (List.append_nil _).symm ▸ starting_mem_attempt hw
  | stopped hs =>
    rw [statesOf_append, hs.quiet.statesOf]
    exact hs.word hw

/-! The retry budget -/

theorem RetryPolicy.decide_eq_spent_iff {p : RetryPolicy} {n : Nat} :
    p.decide n = .spent ↔ p.maxRetries < n := by
  unfold RetryPolicy.decide
  split
  · cases p.backoff.delay? n <;> simp_all
  · simp_all

/-- How starts and failures are counted in a phase, with `limit` retries allowed. -/
def Phase.Within (limit starts failures : Nat) : Phase → Prop
  | .fresh | .resting _ | .vanished => starts = failures ∧ failures ≤ limit
  | .launching _ | .confirming _ | .running | .ending _ | .killing =>
    starts = failures + 1 ∧ failures ≤ limit
  | .over => starts ≤ limit + 1 ∧ failures ≤ limit + 1

/-- What a session has spent of its retries. -/
structure Budget (s : Session) (acts : List SessionAct) : Prop where
  retries_eq : s.retries = (statesOf acts).count .retrying
  launches_le : acts.countP SessionAct.isLaunch ≤ s.record.attempt
  within : s.phase.Within s.options.retry.maxRetries s.record.attempt s.retries
  spent_iff : [.retrying, .failed] <:+ statesOf acts ↔ s.retries = s.options.retry.maxRetries + 1
  vanished : s.phase = .vanished → s.options.retry.decide s.retries = .noDelay

theorem Session.Starts.within {limit starts failures : Nat} (h : s.Starts v)
    (hw : s.phase.Within limit starts failures) : starts = failures ∧ failures ≤ limit := by
  rcases h with hp | ⟨_, hp, _⟩ <;> rw [hp] at hw <;> exact hw

theorem Session.Failure.within {limit starts failures : Nat} (h : Failure s v acts' e)
    (hw : s.phase.Within limit starts failures) : starts = failures + 1 ∧ failures ≤ limit := by
  cases h <;> simp_all [Phase.Within]

theorem Session.Stop.within {limit starts failures : Nat} (h : Stop s v acts')
    (hw : s.phase.Within limit starts failures) : starts ≤ failures + 1 ∧ failures ≤ limit := by
  cases h <;> simp_all [Phase.Within]

/-- A session that goes on hasn't given up. -/
theorem not_spent_of_live (ht : Told first r p acts) (hr : r.state.isTerminal = false) :
    ¬ [.retrying, .failed] <:+ statesOf acts := by
  intro h
  obtain ⟨t, hm, hc⟩ := List.mem_map.mp (h.subset (List.mem_cons_of_mem _ (List.mem_singleton_self _)))
  have hl := ht.live hr t hm
  simp [hc, SessionState.isTerminal] at hl

theorem retries_step (hb : Budget s acts) (h : Step s v s' acts') :
    s'.retries = (statesOf (acts ++ acts')).count .retrying := by
  have hr := hb.retries_eq
  rw [statesOf_append, List.count_append, ← hr]
  cases h with
  | rested _ hf | vanished _ hf | spent _ hf =>
    simp [statesOf_append, hf.quiet.statesOf, statesOf_announcement, failing]
  | stopped hs => simp [statesOf_append, hs.quiet.statesOf, statesOf_announcement]
  | refused | launched | kept | confirmed | shutDown | killed => rfl

theorem launches_step (hb : Budget s acts) (h : Step s v s' acts') :
    (acts ++ acts').countP SessionAct.isLaunch ≤ s'.record.attempt := by
  have hl := hb.launches_le
  rw [List.countP_append]
  cases h with
  | rested _ hf | vanished _ hf | spent _ hf =>
    simpa [hf.quiet.countP, countP_announcement, failing] using hl
  | stopped hs => simpa [hs.quiet.countP, countP_announcement] using hl
  | refused => simpa [countP_announcement, opening] using Nat.le_succ_of_le hl
  | launched => simpa [countP_announcement, opening, SessionAct.isLaunch] using hl
  | confirmed => simpa [countP_announcement] using hl
  | kept | shutDown | killed => simpa [SessionAct.isLaunch] using hl

theorem within_step (hb : Budget s acts) (h : Step s v s' acts') :
    s'.phase.Within s'.options.retry.maxRetries s'.record.attempt s'.retries := by
  have hw := hb.within
  cases h with
  | refused hp | launched hp =>
    have := hp.within hw
    simp only [Phase.Within, opening]
    omega
  | rested _ hf hd | vanished _ hf hd =>
    have := hf.within hw
    have hn : ¬ s.options.retry.maxRetries < s.retries + 1 := by
      rw [← RetryPolicy.decide_eq_spent_iff, hd]
      simp
    simp only [Phase.Within, failing]
    omega
  | spent _ hf =>
    have := hf.within hw
    simp only [Phase.Within, failing]
    omega
  | stopped hs =>
    have := hs.within hw
    simp only [Phase.Within]
    omega
  | kept hp | confirmed hp | killed hp =>
    rw [hp] at hw
    exact hw
  | shutDown hp => rcases hp with hp | ⟨_, hp⟩ <;> rw [hp] at hw <;> exact hw

theorem spent_iff_step (hb : Budget s acts) (ht : Told first s.record s.previous acts) (hf : Final s)
    (h : Step s v s' acts') :
    [.retrying, .failed] <:+ statesOf (acts ++ acts') ↔
      s'.retries = s'.options.retry.maxRetries + 1 := by
  have hw := hb.within
  have hw' := within_step hb h
  have ht' := told_step ht hf h
  have hf' := final_step hf h
  by_cases hp : s'.phase = .over
  · rw [statesOf_append]
    cases h with
    | refused hq =>
      have := hq.within hw
      rw [← List.reverse_prefix]
      simp [statesOf_append, statesOf_announcement, opening]
      omega
    | spent _ hq hd =>
      have := hq.within hw
      have := RetryPolicy.decide_eq_spent_iff.mp hd
      rw [← List.reverse_prefix]
      simp [statesOf_append, statesOf_announcement, failing, hq.quiet.statesOf]
      omega
    | stopped hq =>
      have := hq.within hw
      rw [← List.reverse_prefix]
      simp [statesOf_append, statesOf_announcement, hq.quiet.statesOf]
      omega
    | _ => simp at hp
  · have hl : s'.record.state.isTerminal = false := by simpa using mt hf'.mp hp
    have hn := not_spent_of_live ht' hl
    have hr : s'.retries ≤ s'.options.retry.maxRetries := by
      cases hq : s'.phase <;> simp_all [Phase.Within]
    simp only [hn, false_iff]
    omega

theorem vanished_step (h : Step s v s' acts') (hp : s'.phase = .vanished) :
    s'.options.retry.decide s'.retries = .noDelay := by
  cases h with
  | vanished _ _ hd => exact hd
  | _ => simp at hp

theorem budget_step (hb : Budget s acts) (ht : Told first s.record s.previous acts) (hf : Final s)
    (h : Step s v s' acts') : Budget s' (acts ++ acts') :=
  ⟨retries_step hb h, launches_step hb h, within_step hb h, spent_iff_step hb ht hf h, vanished_step h⟩

/-! The story -/

/-- The story of a session that may retry `limit` times and displays `first` before it begins. -/
structure Story (limit : Nat) (first : SessionRecord) (c : Course) : Prop where
  /-- Nothing but transitions is reported. -/
  known : ∀ e, .report e ∈ c.acts → e.transition?.isSome
  /-- Each transition fits those before it, so that none follows a final one. -/
  fits : ∀ before t, before ++ [t] <+: transitions c.acts → t.Fits first.target before
  /-- A session that has ended has reported a whole word, any other one can still complete its word. -/
  word : c.session.phase = .over → statesOf c.acts ∈ sessionWord.matches'
  extends_to_word : ∃ rest, statesOf c.acts ++ rest ∈ sessionWord.matches'
  over_iff : c.session.phase = .over ↔ ∃ t ∈ transitions c.acts, t.current.isTerminal = true
  starts_le : (statesOf c.acts).count .starting ≤ limit + 1
  launches_le : c.acts.countP SessionAct.isLaunch ≤ limit + 1
  /-- Giving up right after a failure takes one failure more than there are retries. -/
  spent_iff : [.retrying, .failed] <:+ statesOf c.acts ↔ (statesOf c.acts).count .retrying = limit + 1
  /-- Unless a report has just been made, the displayed record is the one that it was about. -/
  shown : ∀ past, past <+: c.acts → ¬ Pending past →
    first.Agrees (displayed first past) (transitions past).getLast?
  /-- A session breaks off only after a failure whose delay is no span of time. -/
  vanished : c.session.phase = .vanished →
    c.session.options.retry.backoff.delay? ((statesOf c.acts).count .retrying) = none

/-- What holds between the steps of a session. -/
structure Telling (first : SessionRecord) (s : Session) (acts : List SessionAct) : Prop where
  told : Told first s.record s.previous acts
  final : Final s
  word : statesOf acts ∈ s.phase.word.matches'
  budget : Budget s acts

theorem telling_fresh (o : SessionOptions) (target : String) (clock : Timestamp) :
    Telling (.fresh target clock) (.ofTarget o target clock) [] where
  told := told_fresh rfl
  final := by simp [Final, ofTarget, SessionRecord.fresh, SessionState.isTerminal]
  word := rfl
  budget := by
    refine ⟨rfl, Nat.le_refl _, ⟨rfl, Nat.zero_le _⟩, ?_, ?_⟩ <;> simp [statesOf, transitions, ofTarget]

theorem telling_step (h : Telling first s acts) (hs : Step s v s' acts') :
    Telling first s' (acts ++ acts') :=
  ⟨told_step h.told h.final hs, final_step h.final hs, word_step h.word hs,
    budget_step h.budget h.told h.final hs⟩

end

theorem Course.telling (o : SessionOptions) (target : String) (clock : Timestamp) (cues : List Cue) :
    let c := (Course.ofTarget o target clock).follow cues
    c.session.options = o ∧ Telling (.fresh target clock) c.session c.acts := by
  apply Course.follow_induction (P := fun c =>
    c.session.options = o ∧ Telling (.fresh target clock) c.session c.acts)
  · exact ⟨rfl, telling_fresh o target clock⟩
  · rintro c ⟨ho, ht, hf, hw, hr, hl, hb, hs, hv⟩
    exact ⟨ho, ht, hf, hw, hr, hl, hb, hs, hv⟩
  · rintro c v s acts ⟨ho, ht⟩ hs
    refine ⟨hs.options_eq.trans ho, ?_⟩
    simpa [Course.acts, Function.comp_def] using telling_step ht hs

theorem RetryPolicy.delay_eq_none {p : RetryPolicy} {n : Nat} (h : p.decide n = .noDelay) :
    p.backoff.delay? n = none := by
  unfold RetryPolicy.decide at h
  split at h
  · cases hd : p.backoff.delay? n <;> simp_all
  · simp at h

/-- A session that goes on has no more than one start per retry and one more. -/
theorem Phase.Within.starts_le {phase : Phase} {limit starts failures : Nat}
    (h : phase.Within limit starts failures) : starts ≤ limit + 1 := by
  cases phase <;> simp only [Phase.Within] at h <;> omega

theorem Telling.over_iff {first : SessionRecord} {s : Session} {acts : List SessionAct}
    (h : Telling first s acts) (hfirst : first.state.isTerminal = false) :
    s.phase = .over ↔ ∃ t ∈ transitions acts, t.current.isTerminal = true := by
  constructor
  · intro hp
    have hr := h.final.mpr hp
    have ha := h.told.shown acts List.prefix_rfl h.told.settled
    rw [h.told.current_eq] at ha
    cases hl : (transitions acts).getLast? with
    | none =>
      rw [hl] at ha
      simp [show s.record = first from ha, hfirst] at hr
    | some t =>
      rw [hl] at ha
      obtain ⟨p, rfl⟩ := ha
      exact ⟨_, List.mem_of_getLast? hl, hr⟩
  · rintro ⟨t, hm, ht⟩
    by_contra hp
    have hl := h.told.live (by simpa using mt h.final.mp hp) t hm
    simp [hl] at ht

/-- Every course of a session tells its story. -/
theorem course_tells_story (o : SessionOptions) (target : String) (clock : Timestamp)
    (cues : List Cue) :
    Story o.retry.maxRetries (.fresh target clock)
      ((Course.ofTarget o target clock).follow cues) := by
  obtain ⟨ho, h⟩ := Course.telling o target clock cues
  have hw := h.budget.within.starts_le
  rw [ho] at hw
  constructor
  case known => exact h.told.known
  case fits => exact h.told.fits
  case word =>
    intro hp
    simpa only [hp, Phase.word] using h.word
  case extends_to_word => exact exists_append_mem_sessionWord h.word
  case over_iff => exact h.over_iff rfl
  case starts_le => simpa only [statesOf, ← h.told.attempt_eq] using hw
  case launches_le => exact h.budget.launches_le.trans hw
  case spent_iff => rw [h.budget.spent_iff, h.budget.retries_eq, ho]
  case shown => exact h.told.shown
  case vanished =>
    intro hp
    rw [← h.budget.retries_eq]
    exact RetryPolicy.delay_eq_none (h.budget.vanished hp)

end ProxyWatch
