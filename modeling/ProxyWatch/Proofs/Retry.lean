import ProxyWatch.Clock
import ProxyWatch.Proofs.Config
import ProxyWatch.Proofs.Number.Binary64

/-! The delays of a valid configuration are spans of time: none is shorter than the first one, and none is longer than
the longest setting. -/
namespace ProxyWatch

namespace Duration

variable {low high n : Nat} {x : Binary64}

theorem seconds_ofSeconds (n : Nat) : (ofSeconds n).seconds = n := by
  simp only [seconds, ofSeconds, perSecond]
  omega

theorem subsecond_ofSeconds (n : Nat) : (ofSeconds n).subsecond = 0 := by
  simp only [subsecond, ofSeconds, perSecond]
  omega

theorem nanos_ofSeconds_le (h : low ≤ high) : (ofSeconds low).nanos ≤ (ofSeconds high).nanos := Nat.mul_le_mul_right _ h

/-- Whole seconds are exact. -/
theorem isWhole_toSeconds (hn : n < 2 ^ 53) : (ofSeconds n).toSeconds.IsWhole n := by
  have hzero : (Binary64.ofNat 0).divNat perSecond = .zero := by decide
  rw [toSeconds, seconds_ofSeconds, subsecond_ofSeconds, hzero]
  exact Binary64.isWhole_add_zero (Binary64.isWhole_ofNat hn) hn

/-- A number of seconds between whole ones is a span of time between theirs. -/
theorem exists_ofSecondsDouble (hx : x.AtLeast low) (hf : x.isFinite = true) (hv : x.value ≤ high)
    (hhigh : high < 2 ^ 64) : ∃ d, ofSecondsDouble? x = some d ∧
    (ofSeconds low).nanos ≤ d.nanos ∧ d.nanos ≤ (ofSeconds high).nanos := by
  have hneg := hx.not_lt_zero
  cases x with
  | nan | infinite => cases hf
  | finite s m e =>
    obtain ⟨rfl, hm⟩ := hx
    obtain ⟨num, den, hr, -, hd, hratio⟩ := Binary64.exists_ratio false m e
    change (m * 2 ^ e : ℚ) ≤ high at hv
    rw [← hratio] at hm hv
    have hpos : (0 : ℚ) < den := by exact_mod_cast hd
    have hnanos : ((num * perSecond : Nat) : ℚ) / den = num / den * perSecond := by
      rw [Nat.cast_mul]
      ring
    refine ⟨⟨roundHalfEven (num * perSecond) den⟩, ?_, ?_, ?_⟩
    · have hlt : num < pow2 64 * den := by
        have hlt : (num / den : ℚ) < (2 ^ 64 : Nat) := hv.trans_lt (by exact_mod_cast hhigh)
        rw [div_lt_iff₀ hpos] at hlt
        exact_mod_cast hlt
      rw [ofSecondsDouble?, hneg, hr]
      exact if_neg (Nat.not_le.mpr hlt)
    · refine le_roundHalfEven hd ?_
      rw [hnanos, ofSeconds, Nat.cast_mul]
      exact mul_le_mul_of_nonneg_right hm (Nat.cast_nonneg _)
    · refine roundHalfEven_le hd ?_
      rw [hnanos, ofSeconds, Nat.cast_mul]
      exact mul_le_mul_of_nonneg_right hv (Nat.cast_nonneg _)

end Duration

namespace Backoff

variable {b : Backoff} {first max : Nat}

/-- A delay lies between the first and the longest one, also where the growth is too large for a double or no number. -/
theorem exists_delay (hfirst : b.first = .ofSeconds first) (hmax : b.max = .ofSeconds max) (hle : first ≤ max)
    (hn : max < 2 ^ 53) (hfactor : b.factor.AtLeast 1) (retry : Nat) : ∃ d, b.delay? retry = some d ∧
    (Duration.ofSeconds first).nanos ≤ d.nanos ∧ d.nanos ≤ (Duration.ofSeconds max).nanos := by
  have hpower := Binary64.atLeast_pow hfactor (exponent retry)
  have hseconds : (Duration.ofSeconds first).toSeconds.AtLeast first :=
    (Duration.isWhole_toSeconds (hle.trans_lt hn)).atLeast
  obtain ⟨hmaxFinite, hmaxValue⟩ := (Duration.isWhole_toSeconds hn).value_eq
  unfold delay?
  simp only
  split
  · exact ⟨_, rfl, by rw [hmax]; exact ⟨Duration.nanos_ofSeconds_le hle, le_rfl⟩⟩
  · rename_i h
    simp only [Bool.or_eq_true, not_or, Bool.not_eq_true, Bool.not_eq_false'] at h
    obtain ⟨⟨hf, -⟩, hcap⟩ := h
    have hgrowth : (b.growth retry).AtLeast first := by
      refine (Binary64.atLeast_mul (hfirst ▸ hseconds) hpower Nat.one_pos (hle.trans hn.le)
        (Nat.mul_one first).ge).resolve_right fun ⟨_, hnan⟩ => ?_
      rw [growth, hnan] at hf
      cases hf
    have hvalue : (b.growth retry).value ≤ max := by
      rw [hmax] at hcap
      rw [← hmaxValue]
      exact not_lt.mp fun hlt => Bool.eq_false_iff.mp hcap ((Binary64.lt_iff_value hmaxFinite hf).mpr hlt)
    exact Duration.exists_ofSecondsDouble hgrowth hf hvalue (hn.trans (by decide))

end Backoff

theorem SupervisorConfig.Checked.atLeast_factor {supervisor : SupervisorConfig} (h : supervisor.Checked) :
    supervisor.factor.AtLeast 1 := by
  obtain ⟨hone, hvalue⟩ := Binary64.isWhole_one.value_eq
  refine Binary64.atLeast_of_value h.factor_finite ?_ Nat.one_pos
  rw [← hvalue]
  exact not_lt.mp fun hlt => Bool.eq_false_iff.mp h.factor_ge ((Binary64.lt_iff_value h.factor_finite hone).mpr hlt)

namespace Config

variable {config : Config}

/-- The bounds of the settings that supervision goes by. -/
theorem supervisor_of_validate (h : config.validate = .ok ()) :
    config.supervisor.maxDelaySeconds ≤ maxSettingSeconds ∧ config.supervisor.startTimeoutSeconds ≤ maxSettingSeconds ∧
    config.supervisor.startConfirmMs < config.supervisor.startTimeoutSeconds * 1000 :=
  have supervisor := (checked_of_validate h).supervisor
  ⟨supervisor.maxDelay_le, supervisor.startTimeout_le, supervisor.startConfirm_lt⟩

/-- Every delay of a valid configuration is a span of time between the first and the longest one. -/
theorem exists_delay_between (h : config.validate = .ok ()) (retry : Nat) :
    ∃ d, config.sessionOptions.retry.backoff.delay? retry = some d ∧
      (Duration.ofSeconds config.supervisor.firstDelaySeconds).nanos ≤ d.nanos ∧
      d.nanos ≤ (Duration.ofSeconds config.supervisor.maxDelaySeconds).nanos := by
  have supervisor := (checked_of_validate h).supervisor
  exact Backoff.exists_delay rfl rfl supervisor.firstDelay_le (supervisor.maxDelay_le.trans_lt (by decide))
    supervisor.atLeast_factor retry

/-- The clock can reach its end. -/
theorem exists_delay (h : config.validate = .ok ()) (retry : Nat) :
    ∃ d, config.sessionOptions.retry.backoff.delay? retry = some d ∧ d.seconds < Clock.reach := by
  obtain ⟨d, hd, -, hle⟩ := exists_delay_between h retry
  refine ⟨d, hd, ?_⟩
  have hseconds : d.seconds ≤ (Duration.ofSeconds config.supervisor.maxDelaySeconds).seconds :=
    Nat.div_le_div_right hle
  rw [Duration.seconds_ofSeconds] at hseconds
  exact (hseconds.trans (supervisor_of_validate h).1).trans_lt (by decide)

end Config
end ProxyWatch
