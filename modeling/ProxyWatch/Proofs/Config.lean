import ProxyWatch.Config

/-! What a configuration that passes its checks says. -/
namespace ProxyWatch

theorem refuse_eq_ok {condition : Bool} {field : String} {fault : Fault} (h : refuse condition field fault = .ok ()) :
    condition = false := by
  cases condition with
  | false => rfl
  | true => cases h

theorem exists_of_bind_ok {ε α β : Type} {x : Except ε α} {f : α → Except ε β} {b : β} (h : x >>= f = .ok b) :
    ∃ a, x = .ok a ∧ f a = .ok b := by
  cases x with
  | error e => cases h
  | ok a => exact ⟨a, rfl, h⟩

theorem bind_eq_ok {ε α β : Type} {x : Except ε α} {f : α → Except ε β} {b : β} :
    x >>= f = .ok b ↔ ∃ a, x = .ok a ∧ f a = .ok b := by
  constructor
  · exact exists_of_bind_ok
  · rintro ⟨a, rfl, h⟩
    exact h

theorem ok_of_mapError {ε ε₁ α : Type} {x : Except ε α} {f : ε → ε₁} {a : α} (h : x.mapError f = .ok a) :
    x = .ok a := by
  cases x with
  | error e => cases h
  | ok b =>
    cases h
    rfl

/-- The url of a proxy that is taken is one. -/
theorem parse_of_checkProxyUrl {id raw : String} (h : checkProxyUrl id raw = .ok ()) :
    ∃ u, Url.parse raw.toList = .ok u := by
  have h := ok_of_mapError h
  unfold ProxyUrl.validate ProxyUrl.parse at h
  split at h
  · cases h
  · rename_i u hu
    exact ⟨u, hu⟩

theorem ProxySeed.given_of_validate {seen : List String} {seeds : List ProxySeed} (h : validate seen seeds = .ok ()) :
    ∀ p ∈ seeds, Blank.isAllBlank p.id = false ∧ checkProxyUrl p.id p.url = .ok () := by
  induction seeds generalizing seen with
  | nil => simp
  | cons p seeds ih =>
    obtain ⟨_, hid, h⟩ := exists_of_bind_ok h
    obtain ⟨_, _, h⟩ := exists_of_bind_ok h
    obtain ⟨_, hurl, h⟩ := exists_of_bind_ok h
    intro x hx
    rcases List.mem_cons.mp hx with rfl | hx
    · exact ⟨refuse_eq_ok hid, hurl⟩
    · exact ih h x hx

/-- What is known of the settings of health checks that were checked. -/
structure HealthConfig.Checked (health : HealthConfig) : Prop where
  timeout_pos : 0 < health.timeoutSeconds
  timeout_lt : health.timeoutSeconds < health.intervalSeconds
  interval_le : health.intervalSeconds ≤ maxSettingSeconds
  probeUrl_parses : ∃ u, Url.parse health.probeUrl.toList = .ok u

theorem HealthConfig.checked_of_validate {health : HealthConfig} (h : health.validate = .ok ()) : health.Checked := by
  obtain ⟨_, _, h⟩ := exists_of_bind_ok h
  obtain ⟨_, hpos, h⟩ := exists_of_bind_ok h
  obtain ⟨_, hday, h⟩ := exists_of_bind_ok h
  obtain ⟨_, hbelow, h⟩ := exists_of_bind_ok h
  have hpos := refuse_eq_ok hpos
  have hday := refuse_eq_ok hday
  have hbelow := refuse_eq_ok hbelow
  simp only [beq_eq_false_iff_ne, decide_eq_false_iff_not] at hpos hday hbelow
  refine ⟨Nat.pos_of_ne_zero hpos, Nat.lt_of_not_ge hbelow, Nat.le_of_not_lt hday, ?_⟩
  split at h
  · cases h
  · rename_i u hu
    exact ⟨u, hu⟩

/-- What is known of the settings of supervision that were checked. -/
structure SupervisorConfig.Checked (supervisor : SupervisorConfig) : Prop where
  factor_finite : supervisor.factor.isFinite = true
  factor_ge : supervisor.factor.lt .one = false
  maxDelay_le : supervisor.maxDelaySeconds ≤ maxSettingSeconds
  firstDelay_le : supervisor.firstDelaySeconds ≤ supervisor.maxDelaySeconds
  startTimeout_pos : 0 < supervisor.startTimeoutSeconds
  startTimeout_le : supervisor.startTimeoutSeconds ≤ maxSettingSeconds
  stopGrace_le : supervisor.stopGraceSeconds ≤ maxSettingSeconds
  startConfirm_lt : supervisor.startConfirmMs < supervisor.startTimeoutSeconds * 1000

theorem SupervisorConfig.checked_of_validate {supervisor : SupervisorConfig} (h : supervisor.validate = .ok ()) :
    supervisor.Checked := by
  obtain ⟨_, hfactor, h⟩ := exists_of_bind_ok h
  obtain ⟨_, hmax, h⟩ := exists_of_bind_ok h
  obtain ⟨_, hfirst, h⟩ := exists_of_bind_ok h
  obtain ⟨_, hpos, h⟩ := exists_of_bind_ok h
  obtain ⟨_, hstart, h⟩ := exists_of_bind_ok h
  obtain ⟨_, hgrace, hconfirm⟩ := exists_of_bind_ok h
  have hfactor := refuse_eq_ok hfactor
  have hmax := refuse_eq_ok hmax
  have hfirst := refuse_eq_ok hfirst
  have hpos := refuse_eq_ok hpos
  have hstart := refuse_eq_ok hstart
  have hgrace := refuse_eq_ok hgrace
  have hconfirm := refuse_eq_ok hconfirm
  simp only [beq_eq_false_iff_ne, decide_eq_false_iff_not, Nat.not_lt, Nat.not_le, gt_iff_lt, ge_iff_le]
    at hmax hfirst hpos hstart hgrace hconfirm
  simp only [Bool.or_eq_false_iff, Bool.not_eq_false'] at hfactor
  exact ⟨hfactor.1, hfactor.2, hmax, hfirst, Nat.pos_of_ne_zero hpos, hstart, hgrace, (Nat.lt_min.mp hconfirm).1⟩

namespace Config

variable {config : Config}

/-- What is known of the parts of a configuration that was checked. -/
structure Checked (config : Config) : Prop where
  health : config.health.Checked
  maxFailures_pos : 0 < config.failover.maxFailures
  supervisor : config.supervisor.Checked
  proxies : ∀ p ∈ config.proxies, Blank.isAllBlank p.id = false ∧ checkProxyUrl p.id p.url = .ok ()

theorem checked_of_validate (h : config.validate = .ok ()) : config.Checked := by
  obtain ⟨_, hhealth, h⟩ := exists_of_bind_ok h
  obtain ⟨_, hmax, h⟩ := exists_of_bind_ok h
  obtain ⟨_, hsupervisor, h⟩ := exists_of_bind_ok h
  obtain ⟨_, _, hproxies⟩ := exists_of_bind_ok h
  have hpos : config.failover.maxFailures ≠ 0 := by simpa using refuse_eq_ok hmax
  exact ⟨HealthConfig.checked_of_validate hhealth, Nat.pos_of_ne_zero hpos,
    SupervisorConfig.checked_of_validate hsupervisor, ProxySeed.given_of_validate hproxies⟩

/-- A valid configuration has a positive limit and seeds that name endpoints. -/
theorem given_of_validate (h : config.validate = .ok ()) : 0 < config.failover.maxFailures ∧
    ∀ p ∈ config.proxies, Blank.isAllBlank p.id = false ∧ checkProxyUrl p.id p.url = .ok () :=
  ⟨(checked_of_validate h).maxFailures_pos, (checked_of_validate h).proxies⟩

/-- In a valid configuration a probe has fewer seconds than lie between two rounds, and these are a day at most. -/
theorem timeout_lt_interval (h : config.validate = .ok ()) :
    0 < config.health.timeoutSeconds ∧ config.health.timeoutSeconds < config.health.intervalSeconds ∧
    config.health.intervalSeconds ≤ maxSettingSeconds :=
  have health := (checked_of_validate h).health
  ⟨health.timeout_pos, health.timeout_lt, health.interval_le⟩

/-- A session gives its capture a day at most to end. -/
theorem stopGraceSeconds_le (h : config.validate = .ok ()) :
    config.supervisor.stopGraceSeconds ≤ maxSettingSeconds :=
  (checked_of_validate h).supervisor.stopGrace_le

end Config

end ProxyWatch
