import ProxyWatch.Proofs.Number.Power
import ProxyWatch.Proofs.Retry

/-! The schedule of a whole growth factor. The delays are those of integer arithmetic, except that a first delay of zero
turns into the longest one where the power of the factor is too large for a double. -/
namespace ProxyWatch

/-- The delay before a retry in whole seconds, if the growth factor is `k`. -/
def SupervisorConfig.scheduled (supervisor : SupervisorConfig) (k retry : Nat) : Duration :=
  .ofSeconds (min (supervisor.firstDelaySeconds * k ^ (retry - 1)) supervisor.maxDelaySeconds)

theorem Duration.ofSecondsDouble_of_isWhole {n : Nat} {x : Binary64} (hx : x.IsWhole n) (hn : n < 2 ^ 64) :
    ofSecondsDouble? x = some (ofSeconds n) := by
  obtain ⟨hf, hv⟩ := hx.value_eq
  obtain ⟨⟨nanos⟩, hd, hlow, hhigh⟩ := exists_ofSecondsDouble hx.atLeast hf hv.le hn
  obtain rfl : nanos = (ofSeconds n).nanos := Nat.le_antisymm hhigh hlow
  exact hd

namespace Backoff

variable {b : Backoff} {first max n k retry : Nat}

/-! The cap -/

theorem delay?_of_not_finite (h : (b.growth retry).isFinite = false) : b.delay? retry = some b.max := by
  rw [delay?, h]
  rfl

theorem delay?_of_lt (h : b.max.toSeconds.lt (b.growth retry) = true) : b.delay? retry = some b.max := by
  rw [delay?, h, Bool.or_true]
  rfl

/-- A growth beyond the longest delay is cut down to it. -/
theorem delay?_of_atLeast (hmax : b.max = .ofSeconds max) (hn : max < 2 ^ 53) (hg : (b.growth retry).AtLeast n)
    (hlt : max < n) : b.delay? retry = some b.max := by
  cases hf : (b.growth retry).isFinite with
  | false => exact delay?_of_not_finite hf
  | true =>
    obtain ⟨hmaxFinite, hmaxValue⟩ := (Duration.isWhole_toSeconds hn).value_eq
    refine delay?_of_lt ?_
    rw [hmax, Binary64.lt_iff_value hmaxFinite hf, hmaxValue]
    have hcast : (max : ℚ) < n := by exact_mod_cast hlt
    exact hcast.trans_le (hg.le_value hf)

theorem delay?_of_isWhole (hmax : b.max = .ofSeconds max) (hn : max < 2 ^ 53) (hg : (b.growth retry).IsWhole n) :
    b.delay? retry = some (.ofSeconds (min n max)) := by
  rcases Nat.lt_or_ge max n with hlt | hge
  · rw [delay?_of_atLeast hmax hn hg.atLeast hlt, hmax, Nat.min_eq_right hlt.le]
  · obtain ⟨hf, hv⟩ := hg.value_eq
    obtain ⟨hmaxFinite, hmaxValue⟩ := (Duration.isWhole_toSeconds hn).value_eq
    have hcap : b.max.toSeconds.lt (b.growth retry) = false := by
      rw [Bool.eq_false_iff, hmax, ne_eq, Binary64.lt_iff_value hmaxFinite hf, hmaxValue, hv, not_lt]
      exact_mod_cast hge
    rw [delay?, hf, hg.atLeast.not_lt_zero, hcap, Nat.min_eq_left hge]
    exact Duration.ofSecondsDouble_of_isWhole hg (hge.trans_lt (hn.trans (by decide)))

/-- What the growth counts to is the delay, up to the longest one. -/
theorem delay?_of_counts (hmax : b.max = .ofSeconds max) (hn : max < 2 ^ 53) (hg : (b.growth retry).Counts n) :
    b.delay? retry = some (.ofSeconds (min n max)) := by
  rcases Nat.lt_or_ge n (2 ^ 53) with hlt | hge
  · exact delay?_of_isWhole hmax hn (hg.isWhole hlt)
  · rw [delay?_of_atLeast hmax hn (hg.atLeast hge le_rfl) hn, hmax, Nat.min_eq_right (hn.le.trans hge)]

/-! The growth -/

theorem counts_growth (hfirst : b.first = .ofSeconds first) (hn : first < 2 ^ 53) (hpos : 0 < first)
    (hk : b.factor.IsWhole k) (hkpos : 0 < k) : (b.growth retry).Counts (first * k ^ exponent retry) := by
  have hseconds : b.first.toSeconds.Counts first := hfirst ▸ (Duration.isWhole_toSeconds hn).counts
  exact Binary64.counts_mul hseconds (Binary64.counts_pow hk hkpos _) hpos (Nat.pow_pos hkpos)

/-- Nothing grows from zero. -/
theorem isWhole_growth_of_zero (hfirst : b.first = .ofSeconds 0) (hk : b.factor.AtLeast 1)
    (hf : (b.factor.pow (exponent retry)).isFinite = true) : (b.growth retry).IsWhole 0 := by
  have hseconds : b.first.toSeconds.IsWhole 0 := hfirst ▸ Duration.isWhole_toSeconds (by decide)
  rcases Binary64.atLeast_iff.mp (Binary64.atLeast_pow hk (exponent retry)) with hinf | ⟨v, hv, -⟩
  · rw [hinf] at hf
    cases hf
  · exact Binary64.isWhole_zero_mul hseconds hv

/-- A power that is no number leads to the longest delay, from zero too. -/
theorem delay?_of_infinite (h : (b.factor.pow (exponent retry)).isFinite = false) : b.delay? retry = some b.max := by
  refine delay?_of_not_finite ?_
  rw [Bool.eq_false_iff] at h ⊢
  exact mt Binary64.isFinite_of_mul h

/-- Where the exponent has its greatest value the schedule is at its end. -/
theorem min_pow_exponent {bound : Nat} (hk : 0 < k) (hbound : bound < 2 ^ 31) (hmax : max ≤ 2 ^ bound) :
    min (first * k ^ exponent retry) max = min (first * k ^ (retry - 1)) max := by
  rcases Nat.le_total (retry - 1) (pow2 31 - 1) with hle | hge
  · rw [exponent, Nat.min_eq_left hle]
  · rw [exponent, Nat.min_eq_right hge]
    have hlast : bound ≤ pow2 31 - 1 := Nat.le_sub_one_of_lt hbound
    generalize pow2 31 - 1 = last at hge hlast ⊢
    rcases Nat.eq_zero_or_pos first with rfl | hpos
    · rw [Nat.zero_mul, Nat.zero_mul]
    · rcases Nat.lt_or_eq_of_le (Nat.succ_le_of_lt hk) with htwo | rfl
      · have hlong : max ≤ first * k ^ last :=
          calc max ≤ 2 ^ bound := hmax
            _ ≤ 2 ^ last := Nat.pow_le_pow_right Nat.two_pos hlast
            _ ≤ k ^ last := Nat.pow_le_pow_left htwo last
            _ ≤ first * k ^ last := Nat.le_mul_of_pos_left _ hpos
        have hlonger : first * k ^ last ≤ first * k ^ (retry - 1) :=
          Nat.mul_le_mul_left _ (Nat.pow_le_pow_right hk hge)
        rw [Nat.min_eq_right hlong, Nat.min_eq_right (hlong.trans hlonger)]
      · rw [Nat.one_pow, Nat.one_pow]

theorem le_pow_exponent {bound : Nat} (hk : 0 < k) (hbound : bound < 2 ^ 31) (h : 2 ^ bound ≤ k ^ (retry - 1)) :
    2 ^ bound ≤ k ^ exponent retry := by
  have hsame : min (1 * k ^ exponent retry) (2 ^ bound) = min (1 * k ^ (retry - 1)) (2 ^ bound) :=
    min_pow_exponent hk hbound le_rfl
  rw [Nat.one_mul, Nat.one_mul, Nat.min_eq_right h] at hsame
  exact min_eq_right_iff.mp hsame

/-- The delay is that of the schedule unless an infinite power meets a first delay of zero. -/
theorem delay?_eq_of_whole (hfirst : b.first = .ofSeconds first) (hmax : b.max = .ofSeconds max) (hle : first ≤ max)
    (hn : max < 2 ^ 31) (hk : b.factor.IsWhole k) (hkpos : 0 < k)
    (h : 0 < first ∨ (b.factor.pow (exponent retry)).isFinite = true) :
    b.delay? retry = some (.ofSeconds (min (first * k ^ (retry - 1)) max)) := by
  have hlt : max < 2 ^ 53 := hn.trans (by decide)
  rw [← min_pow_exponent hkpos hn Nat.lt_two_pow_self.le]
  refine delay?_of_counts hmax hlt ?_
  rcases Nat.eq_zero_or_pos first with rfl | hpos
  · rw [Nat.zero_mul]
    exact (isWhole_growth_of_zero hfirst (hk.atLeast.mono hkpos) (h.resolve_left (Nat.lt_irrefl 0))).counts
  · exact counts_growth hfirst (hle.trans_lt hlt) hpos hk hkpos

end Backoff

namespace Config

variable {config : Config} {k : Nat}

/-- How the delays keep to the schedule of a whole growth factor. -/
structure OnSchedule (config : Config) (k : Nat) : Prop where
  /-- They do, except that there is no zero any more where the power is too large for a double. -/
  exact_iff : ∀ retry, config.sessionOptions.retry.backoff.delay? retry = some (config.supervisor.scheduled k retry) ↔
    0 < config.supervisor.firstDelaySeconds ∨ config.supervisor.maxDelaySeconds = 0 ∨
      (config.supervisor.factor.pow (Backoff.exponent retry)).isFinite = true
  /-- Any other delay is the longest one. -/
  exact_or_longest : ∀ retry,
    config.sessionOptions.retry.backoff.delay? retry = some (config.supervisor.scheduled k retry) ∨
      config.sessionOptions.retry.backoff.delay? retry = some (.ofSeconds config.supervisor.maxDelaySeconds)
  /-- No power is too large up to 2 ^ 1023, -/
  exact_of_le : ∀ retry, k ^ (retry - 1) ≤ 2 ^ 1023 →
    config.sessionOptions.retry.backoff.delay? retry = some (config.supervisor.scheduled k retry)
  /-- and all are from 2 ^ 1025 on. -/
  longest_of_ge : ∀ retry, 2 ^ 1025 ≤ k ^ (retry - 1) →
    config.sessionOptions.retry.backoff.delay? retry = some (.ofSeconds config.supervisor.maxDelaySeconds)

theorem pos_of_isWhole_factor (h : config.validate = .ok ()) (hk : config.supervisor.factor.IsWhole k) : 0 < k := by
  have hone := hk.isNumber.le_of_atLeast (checked_of_validate h).supervisor.atLeast_factor
  exact_mod_cast hone

/-- The delay of a valid configuration is that of the schedule where anything grows or the power is a number. -/
theorem delay_eq_scheduled (h : config.validate = .ok ()) (hk : config.supervisor.factor.IsWhole k) {retry : Nat}
    (hgrows : 0 < config.supervisor.firstDelaySeconds ∨
      (config.supervisor.factor.pow (Backoff.exponent retry)).isFinite = true) :
    config.sessionOptions.retry.backoff.delay? retry = some (config.supervisor.scheduled k retry) := by
  have supervisor := (checked_of_validate h).supervisor
  exact Backoff.delay?_eq_of_whole rfl rfl supervisor.firstDelay_le (supervisor.maxDelay_le.trans_lt (by decide)) hk
    (pos_of_isWhole_factor h hk) hgrows

theorem scheduled_of_zero (hfirst : config.supervisor.firstDelaySeconds = 0) (k retry : Nat) :
    config.supervisor.scheduled k retry = .ofSeconds 0 := by
  rw [SupervisorConfig.scheduled, hfirst, Nat.zero_mul, Nat.zero_min]

/-- A schedule of zeros doesn't come to a longest delay. -/
theorem scheduled_ne_longest (hfirst : config.supervisor.firstDelaySeconds = 0)
    (hmax : config.supervisor.maxDelaySeconds ≠ 0) (k retry : Nat) :
    config.supervisor.scheduled k retry ≠ .ofSeconds config.supervisor.maxDelaySeconds := by
  rw [scheduled_of_zero hfirst]
  intro h
  have hnanos : 0 * Duration.perSecond = config.supervisor.maxDelaySeconds * Duration.perSecond :=
    congrArg Duration.nanos h
  exact hmax (Nat.eq_of_mul_eq_mul_right (by decide) hnanos).symm

theorem delay_eq_longest {retry : Nat} (h : (config.supervisor.factor.pow (Backoff.exponent retry)).isFinite = false) :
    config.sessionOptions.retry.backoff.delay? retry = some (.ofSeconds config.supervisor.maxDelaySeconds) :=
  Backoff.delay?_of_infinite h

theorem isFinite_pow_eq_false (hk : config.supervisor.factor.IsWhole k) (hkpos : 0 < k) {retry : Nat}
    (h : 2 ^ 1025 ≤ k ^ (retry - 1)) : (config.supervisor.factor.pow (Backoff.exponent retry)).isFinite = false := by
  have hfew : Backoff.exponent retry ≤ 2 ^ 51 := (Nat.min_le_right _ _).trans (by decide)
  rw [Binary64.pow_eq_infinite hk hkpos hfew (Backoff.le_pow_exponent hkpos (by decide) h)]
  rfl

/-- With a whole growth factor the delays of a valid configuration are those of the schedule, as far as doubles go. -/
theorem onSchedule_of_validate (h : config.validate = .ok ()) (hk : config.supervisor.factor.IsWhole k) :
    config.OnSchedule k where
  exact_iff retry := by
    constructor
    · intro hdelay
      by_contra hnone
      obtain ⟨hfirst, hmax, hpow⟩ : ¬ 0 < config.supervisor.firstDelaySeconds ∧
          ¬ config.supervisor.maxDelaySeconds = 0 ∧
          ¬ (config.supervisor.factor.pow (Backoff.exponent retry)).isFinite = true := by
        simpa only [not_or] using hnone
      rw [delay_eq_longest (Bool.eq_false_iff.mpr hpow)] at hdelay
      exact scheduled_ne_longest (Nat.eq_zero_of_not_pos hfirst) hmax k retry (Option.some.inj hdelay).symm
    · rintro (hfirst | hmax | hpow)
      · exact delay_eq_scheduled h hk (.inl hfirst)
      · cases hpow : (config.supervisor.factor.pow (Backoff.exponent retry)).isFinite with
        | true => exact delay_eq_scheduled h hk (.inr hpow)
        | false => rw [delay_eq_longest hpow, SupervisorConfig.scheduled, hmax, Nat.min_zero]
      · exact delay_eq_scheduled h hk (.inr hpow)
  exact_or_longest retry := by
    cases hpow : (config.supervisor.factor.pow (Backoff.exponent retry)).isFinite with
    | true => exact .inl (delay_eq_scheduled h hk (.inr hpow))
    | false => exact .inr (delay_eq_longest hpow)
  exact_of_le retry hle := by
    have hkpos := pos_of_isWhole_factor h hk
    have hexp : k ^ Backoff.exponent retry ≤ k ^ (retry - 1) := Nat.pow_le_pow_right hkpos (Nat.min_le_left _ _)
    exact delay_eq_scheduled h hk (.inr (Binary64.isFinite_pow hk hkpos (hexp.trans hle)))
  longest_of_ge retry hge := delay_eq_longest (isFinite_pow_eq_false hk (pos_of_isWhole_factor h hk) hge)

/-- A configuration that doubles nothing. -/
def doublingZero : Config :=
  { health := { probeUrl := "http://[::1]/" }, supervisor := { firstDelaySeconds := 0 } }

theorem isWhole_doublingZero : doublingZero.supervisor.factor.IsWhole 2 := Binary64.isWhole_ofNat (by decide)

theorem onSchedule_of_validate_zero :
    doublingZero.validate = .ok () ∧ doublingZero.supervisor.factor.IsWhole 2 ∧ doublingZero.OnSchedule 2 :=
  have hvalid : doublingZero.validate = .ok () := by decide +kernel
  ⟨hvalid, isWhole_doublingZero, onSchedule_of_validate hvalid isWhole_doublingZero⟩

/-- All its delays are to be zero, but the 1026th retry waits for five minutes. -/
theorem zero_not_scheduled : doublingZero.validate = .ok () ∧ doublingZero.supervisor.factor.IsWhole 2 ∧
    doublingZero.supervisor.scheduled 2 1026 = .ofSeconds 0 ∧
    doublingZero.sessionOptions.retry.backoff.delay? 1026 = some (.ofSeconds 300) ∧
    doublingZero.sessionOptions.retry.backoff.delay? 1026 ≠ some (doublingZero.supervisor.scheduled 2 1026) := by
  have hdelay : doublingZero.sessionOptions.retry.backoff.delay? 1026 = some (.ofSeconds 300) :=
    delay_eq_longest (isFinite_pow_eq_false isWhole_doublingZero Nat.two_pos
      (pow_le_pow_right₀ one_le_two (by decide)))
  have hzero : doublingZero.supervisor.scheduled 2 1026 = .ofSeconds 0 := scheduled_of_zero rfl 2 1026
  refine ⟨by decide +kernel, isWhole_doublingZero, hzero, hdelay, ?_⟩
  rw [hdelay, hzero]
  decide

end Config
end ProxyWatch
