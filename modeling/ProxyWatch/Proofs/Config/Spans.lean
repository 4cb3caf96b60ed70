import ProxyWatch.Proofs.Retry

/-! The spans of time that a valid configuration leads to. All of them are in range, so that no timer is set to a span
that isn't one. -/
namespace ProxyWatch.Config

/-- The longest span that a setting may name. -/
def day : Duration := .ofSeconds maxSettingSeconds

/-- The spans of time that are set. -/
def spans (config : Config) : List Duration :=
  [config.checkOptions.interval, config.checkOptions.timeout, config.sessionOptions.startTimeout,
    config.sessionOptions.startConfirm, config.sessionOptions.stopGrace]

/-- What timers and pauses are set to. -/
structure InRange (config : Config) : Prop where
  interval_pos : 0 < config.checkOptions.interval.nanos
  /-- A probe that misses its own bound is given up before the next check. -/
  outer : ∃ d, config.checkOptions.outerTimeout? = some d ∧
    d.nanos = config.checkOptions.timeout.nanos + (Duration.ofMillis 500).nanos ∧
    d.nanos < config.checkOptions.interval.nanos
  confirm_lt : config.sessionOptions.startConfirm.nanos < config.sessionOptions.startTimeout.nanos
  spans_le : ∀ d ∈ config.spans, d.nanos ≤ day.nanos
  /-- Every delay is a span of time, between the first and the longest one. -/
  delay : ∀ retry, ∃ d, config.sessionOptions.retry.backoff.delay? retry = some d ∧
    (Duration.ofSeconds config.supervisor.firstDelaySeconds).nanos ≤ d.nanos ∧
    d.nanos ≤ (Duration.ofSeconds config.supervisor.maxDelaySeconds).nanos ∧
    (Duration.ofSeconds config.supervisor.maxDelaySeconds).nanos ≤ day.nanos
  delay_zero : config.sessionOptions.retry.backoff.delay? 0 = config.sessionOptions.retry.backoff.delay? 1
  /-- The delays are there for as many retries as are allowed, -/
  after_iff : ∀ retry d, config.sessionOptions.retry.decide retry = .after d ↔
    retry ≤ config.supervisor.maxRetries ∧ config.sessionOptions.retry.backoff.delay? retry = some d
  /-- and no further. -/
  spent_iff : ∀ retry, config.sessionOptions.retry.decide retry = .spent ↔ config.supervisor.maxRetries < retry

variable {config : Config}

/-- The bound of a probe and half a second are a span of time together, and shorter than the time between checks. -/
theorem outerTimeout_of_validate (h : config.validate = .ok ()) : ∃ d, config.checkOptions.outerTimeout? = some d ∧
    d.nanos = config.health.timeoutSeconds * 1000000000 + 500 * 1000000 ∧
    d.nanos < config.checkOptions.interval.nanos := by
  obtain ⟨-, hlt, hday⟩ := timeout_lt_interval h
  have hday : config.health.intervalSeconds ≤ 86400 := hday
  have hsum : config.health.timeoutSeconds * 1000000000 + 500 * 1000000 ≤ Duration.longest := by
    change _ ≤ 2 ^ 64 * 1000000000 - 1
    omega
  refine ⟨⟨config.health.timeoutSeconds * 1000000000 + 500 * 1000000⟩, ?_, rfl, ?_⟩
  · rw [CheckOptions.outerTimeout?, Duration.add?]
    exact if_pos hsum
  · change config.health.timeoutSeconds * 1000000000 + 500 * 1000000 < config.health.intervalSeconds * 1000000000
    omega

theorem spans_le_day (h : config.validate = .ok ()) : ∀ d ∈ config.spans, d.nanos ≤ day.nanos := by
  have health := (checked_of_validate h).health
  have supervisor := (checked_of_validate h).supervisor
  have hconfirm : config.supervisor.startConfirmMs * 1000000 ≤ maxSettingSeconds * 1000000000 := by
    have hlt := supervisor.startConfirm_lt
    have hle := supervisor.startTimeout_le
    omega
  intro d hd
  simp only [spans, List.mem_cons, List.not_mem_nil, or_false] at hd
  rcases hd with rfl | rfl | rfl | rfl | rfl
  · exact Duration.nanos_ofSeconds_le health.interval_le
  · exact Duration.nanos_ofSeconds_le (health.timeout_lt.le.trans health.interval_le)
  · exact Duration.nanos_ofSeconds_le supervisor.startTimeout_le
  · exact hconfirm
  · exact Duration.nanos_ofSeconds_le supervisor.stopGrace_le

/-- The budget decides whether there is a retry, and nothing else does. -/
theorem decide_eq (h : config.validate = .ok ()) (retry : Nat) :
    ∃ d, config.sessionOptions.retry.backoff.delay? retry = some d ∧ config.sessionOptions.retry.decide retry =
      if retry ≤ config.supervisor.maxRetries then .after d else .spent := by
  obtain ⟨d, hd, -⟩ := exists_delay_between h retry
  refine ⟨d, hd, ?_⟩
  rw [RetryPolicy.decide, hd]
  rfl

/-- A valid configuration leads to spans of time in range. -/
theorem inRange_of_validate (h : config.validate = .ok ()) : config.InRange where
  interval_pos := by
    obtain ⟨hpos, hlt, -⟩ := timeout_lt_interval h
    exact Nat.mul_pos (hpos.trans hlt) (by decide)
  outer := outerTimeout_of_validate h
  confirm_lt := by
    have hlt := (supervisor_of_validate h).2.2
    change config.supervisor.startConfirmMs * 1000000 < config.supervisor.startTimeoutSeconds * 1000000000
    omega
  spans_le := spans_le_day h
  delay retry := by
    obtain ⟨d, hd, hfirst, hmax⟩ := exists_delay_between h retry
    exact ⟨d, hd, hfirst, hmax, Duration.nanos_ofSeconds_le (supervisor_of_validate h).1⟩
  delay_zero := rfl
  after_iff retry d := by
    obtain ⟨d', hd, hdecide⟩ := decide_eq h retry
    rw [hdecide, hd]
    by_cases hle : retry ≤ config.supervisor.maxRetries
    · simp [hle]
    · simp [hle]
  spent_iff retry := by
    obtain ⟨d, -, hdecide⟩ := decide_eq h retry
    rw [hdecide]
    by_cases hle : retry ≤ config.supervisor.maxRetries
    · simp [hle]
    · simp [hle, Nat.lt_of_not_le hle]

/-- The greatest factor there is, of which all powers but the first two are infinite, and no first delay. -/
theorem inRange_of_validate_infinite :
    let config : Config :=
      { health := { probeUrl := "http://[::1]/" }
        supervisor :=
          { firstDelaySeconds := 0, maxDelaySeconds := 86400, factor := .finite false (2 ^ 53 - 1) Binary64.maxExponent } }
    config.validate = .ok () ∧ config.InRange :=
  ⟨by decide +kernel, inRange_of_validate (by decide +kernel)⟩

end ProxyWatch.Config
