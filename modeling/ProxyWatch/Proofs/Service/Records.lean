import ProxyWatch.Config
import ProxyWatch.Probe
import ProxyWatch.Proofs.Failover.Streak
import ProxyWatch.Proofs.Registry.Durable

/-! What holds of the record of an endpoint, whatever is done to it. -/
namespace ProxyWatch

/-- A record makes sense, given the failure limit in force. -/
structure Endpoint.Sound (limit : Nat) (e : Endpoint) : Prop where
  id_given : Blank.isAllBlank e.id = false
  url_ok : checkProxyUrl e.id e.url = .ok ()
  failed_iff : e.status = .failed ↔ 1 ≤ e.failures
  unknown : e.status = .unknown → e.failures = 0
  /-- An endpoint that answered was measured. -/
  answered : e.status = .healthy ∨ e.status = .degraded →
    e.failures = 0 ∧ e.averageMs.isSome ∧ e.lastChecked.isSome
  /-- An endpoint in use has not reached the limit. -/
  in_use : e.enabled = true → e.failures < limit

/-- A record makes sense and can be stored. -/
structure Endpoint.Good (limit : Nat) (e : Endpoint) : Prop where
  sound : e.Sound limit
  storable : e.Storable

/-- The health fields that an update of a record sets fit together. -/
structure HealthUpdate.Fits (limit : Nat) (e : Endpoint) (u : HealthUpdate) : Prop where
  failed_iff : u.status = .failed ↔ 1 ≤ u.failures
  unknown : u.status = .unknown → u.failures = 0
  answered : u.status = .healthy ∨ u.status = .degraded →
    u.failures = 0 ∧ u.averageMs.isSome ∧ u.lastChecked.isSome
  in_use : u.enabled.getD e.enabled = true → u.failures < limit

/-- What a record keeps, whatever happens to it under a failure limit. -/
structure Endpoint.Stable (limit : Nat) (P : Endpoint → Prop) : Prop where
  fresh : ∀ {e : Endpoint}, Blank.isAllBlank e.id = false → checkProxyUrl e.id e.url = .ok () → e.priority ≤ maxU32 →
    P e.resetHealth
  disabled : ∀ {e : Endpoint}, P e → P { e with enabled := false }
  reprioritized : ∀ {e : Endpoint} {priority : Nat}, P e → priority ≤ maxU32 → P { e with priority }
  reenabled : ∀ {e : Endpoint}, P e → P (e.update e.reenableUpdate)
  applied : ∀ {e : Endpoint} {now : Timestamp}, P e → now.IsValid → ∀ result : ProbeResult,
    P (e.applied limit (.ofResult now result)).endpoint

variable {limit : Nat} {e : Endpoint} {o : ProbeOutcome} {u : HealthUpdate}

namespace Endpoint

theorem Storable.update (h : e.Storable) (hu : u.Storable) : (e.update u).Storable :=
  ⟨h.priority_le, hu.failures_le, hu.averageMs_le, hu.lastChecked_valid⟩

theorem storable_resetHealth (hp : e.priority ≤ maxU32) : e.resetHealth.Storable :=
  ⟨hp, Nat.zero_le _, by simp [resetHealth], by simp [resetHealth]⟩

theorem Good.update (h : e.Good limit) (hf : u.Fits limit e) (hs : u.Storable) : (e.update u).Good limit where
  sound := ⟨h.sound.id_given, h.sound.url_ok, hf.failed_iff, hf.unknown, hf.answered, hf.in_use⟩
  storable := h.storable.update hs

/-- A record that is new, or has its health as at insertion. -/
theorem good_resetHealth (hl : 0 < limit) (hid : Blank.isAllBlank e.id = false)
    (hurl : checkProxyUrl e.id e.url = .ok ()) (hp : e.priority ≤ maxU32) : e.resetHealth.Good limit where
  sound := ⟨hid, hurl, by simp [resetHealth], fun _ => rfl, by simp [resetHealth], fun _ => hl⟩
  storable := storable_resetHealth hp

theorem Good.disabled (h : e.Good limit) : { e with enabled := false }.Good limit :=
  ⟨{ h.sound with in_use := by simp }, { h.storable with }⟩

theorem Good.reprioritized (h : e.Good limit) {priority : Nat} (hp : priority ≤ maxU32) :
    { e with priority }.Good limit :=
  ⟨{ h.sound with }, { h.storable with priority_le := hp }⟩

end Endpoint

/-! Outcomes -/

theorem MovingAverage.blend_le (average : Option Nat) {sample : Nat} (h : sample ≤ maxU64) :
    blend average sample ≤ maxU64 := by
  have hr : ∀ a : Binary64, a.roundToNat maxU64 ≤ maxU64 := by
    intro a
    unfold Binary64.roundToNat
    split
    · exact Nat.zero_le _
    · split
      · exact Nat.zero_le _
      · exact Nat.le_refl _
    · exact Nat.zero_le _
    · exact Nat.min_le_right ..
    · exact Nat.min_le_right ..
  cases average with
  | none => exact h
  | some previous => exact hr _

/-- The time that an outcome tells fits its counter. -/
theorem ProbeOutcome.responseMs_le (now : Timestamp) (result : ProbeResult) : (ofResult now result).responseMs ≤ maxU64 := by
  cases result with
  | ok r => exact Nat.le_pred_of_lt (Nat.mod_lt _ (by decide))
  | error e => exact Nat.zero_le _

theorem ProbeOutcome.checkedAt_ofResult (now : Timestamp) (result : ProbeResult) :
    (ofResult now result).checkedAt = now := by
  cases result <;> rfl

namespace Endpoint

theorem fits_nextUpdate (hl : 0 < limit) : (e.nextUpdate o limit).Fits limit e := by
  have hmax : 1 ≤ maxU32 := by decide
  cases ho : o.level with
  | failed =>
    constructor
    case failed_iff =>
      have hcount : 1 ≤ min (e.failures + 1) maxU32 := Nat.le_min.mpr ⟨Nat.le_add_left 1 _, hmax⟩
      simpa [nextUpdate, ho] using hcount
    case unknown | answered => simp [nextUpdate, ho]
    case in_use =>
      intro he
      simp only [nextUpdate, ho] at he ⊢
      by_cases hr : limit ≤ min (e.failures + 1) maxU32
      · -- The limit is reached: an endpoint in use is taken out of it.
        cases hen : e.enabled <;> simp [hen, hr] at he
      · exact Nat.lt_of_not_le hr
  | healthy | degraded =>
    constructor
    case failed_iff | unknown | answered => simp [nextUpdate, ho, ProbeLevel.status]
    case in_use => simpa [nextUpdate, ho] using fun _ => hl

theorem storable_nextUpdate (h : e.Storable) (ho : o.responseMs ≤ maxU64) (ht : o.checkedAt.IsValid) :
    (e.nextUpdate o limit).Storable := by
  have hb := MovingAverage.blend_le e.averageMs ho
  cases hlevel : o.level with
  | failed =>
    simp only [nextUpdate, hlevel]
    exact ⟨Nat.min_le_right .., h.averageMs_le, by simpa using ht⟩
  | healthy | degraded =>
    simp only [nextUpdate, hlevel]
    exact ⟨Nat.zero_le _, by simpa using hb, by simpa using ht⟩

/-! Good records -/

theorem storable_reenableUpdate (h : e.Storable) : e.reenableUpdate.Storable :=
  ⟨Nat.zero_le _, h.averageMs_le, h.lastChecked_valid⟩

theorem storable_outcome (h : e.Storable) {now : Timestamp} (hn : now.IsValid) (result : ProbeResult) :
    (e.nextUpdate (.ofResult now result) limit).Storable := by
  have ht : (ProbeOutcome.ofResult now result).checkedAt.IsValid := by
    rw [ProbeOutcome.checkedAt_ofResult]
    exact hn
  exact storable_nextUpdate h (ProbeOutcome.responseMs_le now result) ht

theorem storable_stable : Stable limit Storable where
  fresh _ _ := storable_resetHealth
  disabled h := { h with }
  reprioritized h hp := { h with priority_le := hp }
  reenabled h := h.update (storable_reenableUpdate h)
  applied h hn result := h.update (storable_outcome h hn result)

theorem good_stable (hl : 0 < limit) : Stable limit (Good limit) where
  fresh := good_resetHealth hl
  disabled := Good.disabled
  reprioritized h := h.reprioritized
  reenabled h := by
    refine h.update ⟨by simp [reenableUpdate], fun _ => rfl, by simp [reenableUpdate], fun _ => hl⟩ ?_
    exact storable_reenableUpdate h.storable
  applied h hn result := h.update (fits_nextUpdate hl) (storable_outcome h.storable hn result)

end Endpoint
end ProxyWatch
