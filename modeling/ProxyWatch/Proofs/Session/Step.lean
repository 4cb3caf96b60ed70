import ProxyWatch.Session

/-! What one step of a session can do, case by case. Every invariant is derived from these cases. -/
namespace ProxyWatch

/-- The error that a record tells together with its state. -/
def SessionRecord.told (r : SessionRecord) : Option String :=
  if r.state = .retrying ∨ r.state = .failed then r.error else none

/-- The report of a record that has gone into its state, and its display. -/
def announcement (previous : Option SessionState) (r : SessionRecord) : List SessionAct :=
  [.report (.sessionChanged r.target previous r.state r.attempt r.route r.told), .display r]

namespace Session

/-- The state that the next report names as the one before. -/
def previous (s : Session) : Option SessionState :=
  if s.announced then some s.record.state else none

/-- The record of the attempt that starts next. -/
def opening (s : Session) (v : SessionView) (route : Option Route) (error : Option String) :
    SessionRecord :=
  { s.record with
    attempt := s.record.attempt + 1, route, error, state := .starting, changed := v.clock }

/-- The record of an attempt that failed. -/
def failing (s : Session) (v : SessionView) (e : ProcessError) : SessionRecord :=
  { s.record with error := some e.message, state := .retrying, changed := v.clock }

/-- An attempt starts now, unless a stop is requested. -/
def Starts (s : Session) (v : SessionView) : Prop :=
  s.phase = .fresh ∨ ∃ wake, s.phase = .resting wake ∧ wake ≤ v.now

/-- How an attempt fails: with what error, and what is let go of first. -/
inductive Failure (s : Session) (v : SessionView) : List SessionAct → ProcessError → Prop
  | launch {d : Nat} {e : ProcessError} (hp : s.phase = .launching d)
      (hv : v.launched = some (.error e)) : Failure s v [] e
  | timeout {d : Nat} (hp : s.phase = .launching d) (hv : v.launched = none) (hd : d ≤ v.now) :
      Failure s v [.abandon] (.startTimeout s.options.startTimeout)
  | early {t : Nat} {r : ExitReport} (hp : s.phase = .confirming t)
      (hv : v.exit = some (.ok r)) : Failure s v [.release] (.earlyExit r)
  | earlyError {t : Nat} {e : ProcessError} (hp : s.phase = .confirming t)
      (hv : v.exit = some (.error e)) : Failure s v [.release] e
  | crash {r : ExitReport} (hp : s.phase = .running) (hv : v.exit = some (.ok r))
      (hr : r.success = false) : Failure s v [.release] (.crash r)
  | runError {e : ProcessError} (hp : s.phase = .running) (hv : v.exit = some (.error e)) :
      Failure s v [.release] e

/-- How a session ends stopped, and what it lets go of first. -/
inductive Stop (s : Session) (v : SessionView) : List SessionAct → Prop
  | fresh (hp : s.phase = .fresh) (hs : s.stopping = true) : Stop s v []
  | launching {d : Nat} (hp : s.phase = .launching d) (hs : s.stopping = true) :
      Stop s v [.abandon]
  | resting {t : Nat} (hp : s.phase = .resting t) (hs : s.stopping = true) : Stop s v []
  | completed {r : ExitReport} (hp : s.phase = .running) (hs : s.stopping = false)
      (hv : v.exit = some (.ok r)) (hr : r.success = true) : Stop s v [.release]
  | ended {d : Nat} {r : ExitReport} (hp : s.phase = .ending d) (hv : v.exit = some (.ok r)) :
      Stop s v [.release]
  | killed (hp : s.phase = .killing) (hv : v.killed = true) : Stop s v [.release]

/-- The steps of a session. -/
inductive Step (s : Session) (v : SessionView) : Session → List SessionAct → Prop
  | refused {e : SelectionError} (hp : s.Starts v) (hs : s.stopping = false)
      (hv : Selection.select v.endpoints s.options.fallback = .error e) :
      Step s v
        { s with
          record := { s.opening v none (some e.message) with state := .failed }
          announced := true, phase := .over }
        (announcement s.previous (s.opening v none (some e.message)) ++
          announcement (some .starting) { s.opening v none (some e.message) with state := .failed })
  | launched {choice : Choice} (hp : s.Starts v) (hs : s.stopping = false)
      (hv : Selection.select v.endpoints s.options.fallback = .ok choice) :
      Step s v
        { s with
          record := s.opening v (some choice.route) s.record.error, announced := true
          phase := .launching (Clock.deadline v.now s.options.startTimeout) }
        (announcement s.previous (s.opening v (some choice.route) s.record.error) ++
          [.launch choice.proxyUrl (s.record.attempt + 1)])
  | kept {d : Nat} (hp : s.phase = .launching d) (hs : s.stopping = false)
      (hv : v.launched = some (.ok ())) :
      Step s v
        { s with phase := .confirming (min (Clock.deadline v.now s.options.startConfirm) d) }
        [.keep]
  | rested {acts : List SessionAct} {e : ProcessError} {d : Duration} (hs : s.stopping = false)
      (hf : Failure s v acts e) (hd : s.options.retry.decide (s.retries + 1) = .after d) :
      Step s v
        { s with
          record := s.failing v e, announced := true, retries := s.retries + 1
          phase := .resting (Clock.timer v.now d) }
        (acts ++ announcement s.previous (s.failing v e))
  | spent {acts : List SessionAct} {e : ProcessError} (hs : s.stopping = false)
      (hf : Failure s v acts e) (hd : s.options.retry.decide (s.retries + 1) = .spent) :
      Step s v
        { s with
          record := { s.failing v e with state := .failed }, announced := true
          retries := s.retries + 1, phase := .over }
        (acts ++ (announcement s.previous (s.failing v e) ++
          announcement (some .retrying) { s.failing v e with state := .failed }))
  | vanished {acts : List SessionAct} {e : ProcessError} (hs : s.stopping = false)
      (hf : Failure s v acts e) (hd : s.options.retry.decide (s.retries + 1) = .noDelay) :
      Step s v
        { s with
          record := s.failing v e, announced := true, retries := s.retries + 1
          phase := .vanished }
        (acts ++ announcement s.previous (s.failing v e))
  | confirmed {t : Nat} (hp : s.phase = .confirming t) (hs : s.stopping = false)
      (hv : v.exit = none) (ht : t ≤ v.now) :
      Step s v
        { s with
          record := { s.record with state := .running, changed := v.clock, error := none }
          announced := true, phase := .running }
        (announcement s.previous
          { s.record with state := .running, changed := v.clock, error := none })
  | shutDown (hp : s.phase = .running ∨ ∃ t, s.phase = .confirming t) (hs : s.stopping = true) :
      Step s v { s with phase := .ending (Clock.timer v.now s.options.stopGrace) } [.terminate]
  | killed {d : Nat} (hp : s.phase = .ending d)
      (hv : (∃ e, v.exit = some (.error e)) ∨ (v.exit = none ∧ d ≤ v.now)) :
      Step s v { s with phase := .killing } [.kill]
  | stopped {acts : List SessionAct} (h : Stop s v acts) :
      Step s v
        { s with
          record := { s.record with state := .stopped, changed := v.clock }, announced := true
          phase := .over }
        (acts ++ announcement s.previous { s.record with state := .stopped, changed := v.clock })

variable {s : Session} {v : SessionView} {acts : List SessionAct}

theorem begin_cases (hp : s.Starts v) (hs : s.stopping = false) :
    Step s v (s.begin v).1 (s.begin v).2 := by
  cases hv : Selection.select v.endpoints s.options.fallback with
  | error e =>
    rw [begin, hv]
    exact .refused hp hs hv
  | ok choice =>
    rw [begin, hv]
    exact .launched hp hs hv

theorem fail_cases {e : ProcessError} (hs : s.stopping = false) (hf : Failure s v acts e) :
    Step s v (s.fail v e).1 (acts ++ (s.fail v e).2) := by
  cases hd : s.options.retry.decide (s.retries + 1) with
  | after d =>
    simp only [fail, enter, hd]
    exact .rested hs hf hd
  | spent =>
    simp only [fail, enter, hd]
    exact .spent hs hf hd
  | noDelay =>
    simp only [fail, enter, hd]
    exact .vanished hs hf hd

theorem finish_cases (h : Stop s v acts) :
    Step s v (s.finish v.clock .stopped).1 (acts ++ (s.finish v.clock .stopped).2) :=
  .stopped h

theorem exitedEarly_cases {t : Nat} {exit : Except ProcessError ExitReport}
    (hp : s.phase = .confirming t) (hs : s.stopping = false) (hv : v.exit = some exit) :
    Step s v (s.exitedEarly v exit).1 (s.exitedEarly v exit).2 := by
  cases exit with
  | ok r => exact fail_cases hs (.early hp hv)
  | error e => exact fail_cases hs (.earlyError hp hv)

theorem exited_cases {exit : Except ProcessError ExitReport}
    (hp : s.phase = .running) (hs : s.stopping = false) (hv : v.exit = some exit) :
    Step s v (s.exited v exit).1 (s.exited v exit).2 := by
  cases exit with
  | ok r =>
    cases hr : r.success with
    | true =>
      simp only [exited, hr, if_true]
      exact finish_cases (.completed hp hs hv hr)
    | false =>
      simp only [exited, hr, Bool.false_eq_true, if_false]
      exact fail_cases hs (.crash hp hv hr)
  | error e => exact fail_cases hs (.runError hp hv)

/-! The steps of each phase -/

variable {r : Reaction}

theorem fresh_cases (hp : s.phase = .fresh) (h : s.step v = some r) : Step s v r.1 r.2 := by
  simp only [step, hp, Option.some.injEq] at h
  subst h
  cases hs : s.stopping with
  | true => exact finish_cases (.fresh hp hs)
  | false => exact begin_cases (.inl hp) hs

theorem launching_cases {d : Nat} (hp : s.phase = .launching d) (h : s.step v = some r) :
    Step s v r.1 r.2 := by
  simp only [step, hp] at h
  cases hs : s.stopping with
  | true =>
    simp only [hs, if_true, Option.some.injEq] at h
    subst h
    exact finish_cases (.launching hp hs)
  | false =>
    cases hv : v.launched with
    | some result =>
      simp only [hs, hv, Bool.false_eq_true, if_false, Option.some.injEq] at h
      subst h
      cases result with
      | ok _ => exact .kept hp hs hv
      | error e => exact fail_cases hs (.launch hp hv)
    | none =>
      simp only [hs, hv, Bool.false_eq_true, if_false] at h
      split at h
      · rename_i hd
        cases h
        exact fail_cases hs (.timeout hp hv hd)
      · cases h

theorem confirming_cases {t : Nat} (hp : s.phase = .confirming t) (h : s.step v = some r) :
    Step s v r.1 r.2 := by
  simp only [step, hp] at h
  cases hs : s.stopping with
  | true =>
    simp only [hs, if_true, Option.some.injEq] at h
    subst h
    exact .shutDown (.inr ⟨t, hp⟩) hs
  | false =>
    cases hv : v.exit with
    | some exit =>
      simp only [hs, hv, Bool.false_eq_true, if_false, Option.some.injEq] at h
      subst h
      exact exitedEarly_cases hp hs hv
    | none =>
      simp only [hs, hv, Bool.false_eq_true, if_false] at h
      split at h
      · rename_i ht
        cases h
        exact .confirmed hp hs hv ht
      · cases h

theorem running_cases (hp : s.phase = .running) (h : s.step v = some r) : Step s v r.1 r.2 := by
  simp only [step, hp] at h
  cases hs : s.stopping with
  | true =>
    simp only [hs, if_true, Option.some.injEq] at h
    subst h
    exact .shutDown (.inl hp) hs
  | false =>
    simp only [hs, Bool.false_eq_true, if_false, Option.map_eq_some_iff] at h
    obtain ⟨exit, hv, rfl⟩ := h
    exact exited_cases hp hs hv

theorem ending_cases {d : Nat} (hp : s.phase = .ending d) (h : s.step v = some r) :
    Step s v r.1 r.2 := by
  simp only [step, hp] at h
  cases hv : v.exit with
  | some exit =>
    cases exit with
    | ok x =>
      simp only [hv, Option.some.injEq] at h
      subst h
      exact finish_cases (.ended hp hv)
    | error e =>
      simp only [hv, Option.some.injEq] at h
      subst h
      exact .killed hp (.inl ⟨e, hv⟩)
  | none =>
    simp only [hv] at h
    split at h
    · rename_i hd
      cases h
      exact .killed hp (.inr ⟨hv, hd⟩)
    · cases h

theorem killing_cases (hp : s.phase = .killing) (h : s.step v = some r) : Step s v r.1 r.2 := by
  simp only [step, hp] at h
  split at h
  · rename_i hv
    cases h
    exact finish_cases (.killed hp hv)
  · cases h

theorem resting_cases {wake : Nat} (hp : s.phase = .resting wake) (h : s.step v = some r) :
    Step s v r.1 r.2 := by
  simp only [step, hp] at h
  cases hs : s.stopping with
  | true =>
    simp only [hs, if_true, Option.some.injEq] at h
    subst h
    exact finish_cases (.resting hp hs)
  | false =>
    simp only [hs, Bool.false_eq_true, if_false] at h
    split at h
    · rename_i hw
      cases h
      exact begin_cases (.inr ⟨wake, hp, hw⟩) hs
    · cases h

theorem step_of_done (hp : s.phase = .over ∨ s.phase = .vanished) : s.step v = none := by
  rcases hp with hp | hp <;> simp only [step, hp]

/-- A step is one of the listed ones. -/
theorem step_cases (h : s.step v = some r) : Step s v r.1 r.2 := by
  cases hp : s.phase with
  | fresh => exact fresh_cases hp h
  | launching d => exact launching_cases hp h
  | confirming t => exact confirming_cases hp h
  | running => exact running_cases hp h
  | ending d => exact ending_cases hp h
  | killing => exact killing_cases hp h
  | resting wake => exact resting_cases hp h
  | vanished => simp [step_of_done (.inr hp)] at h
  | _ => simp [step_of_done (.inl hp)] at h

end Session
end ProxyWatch
