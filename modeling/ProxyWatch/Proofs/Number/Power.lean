import ProxyWatch.Proofs.Number.Accuracy

/-! Powers of whole numbers in doubles. They are exact below 2 ^ 53 and no less than that from there on; up to 2 ^ 1023
they are numbers, and from 2 ^ 1025 on infinite. -/
namespace ProxyWatch.Binary64

variable {a b k m n : Nat} {x y : Binary64} {v w : ℚ}

theorem AtLeast.mono (h : AtLeast n x) (hle : m ≤ n) : AtLeast m x := by
  have hcast : (m : ℚ) ≤ n := by exact_mod_cast hle
  exact atLeast_iff.mpr ((atLeast_iff.mp h).imp_right fun ⟨v, hv, hn⟩ => ⟨v, hv, hcast.trans hn⟩)

theorem IsNumber.atLeast_one (h : IsNumber v x) (hv : 1 ≤ v) : AtLeast 1 x :=
  atLeast_iff.mpr (.inr ⟨v, h, by rwa [Nat.cast_one]⟩)

theorem IsNumber.le_of_atLeast (h : IsNumber v x) (hx : AtLeast n x) : n ≤ v := by
  obtain ⟨m, e, rfl, rfl⟩ := h
  exact hx.2

/-! Exact powers -/

/-- The double counts to a number: below 2 ^ 53 it is the number, and beyond it is at least 2 ^ 53. -/
def Counts (n : Nat) (x : Binary64) : Prop := if n < 2 ^ 53 then IsWhole n x else AtLeast (2 ^ 53) x

theorem IsWhole.counts (h : IsWhole n x) : Counts n x := by
  unfold Counts
  split
  · exact h
  · rename_i hn
    exact h.atLeast.mono (Nat.not_lt.mp hn)

theorem Counts.atLeast (h : Counts n x) (hle : m ≤ n) (hm : m ≤ 2 ^ 53) : AtLeast m x := by
  unfold Counts at h
  split at h
  · exact h.atLeast.mono hle
  · exact h.mono hm

theorem Counts.isWhole (h : Counts n x) (hn : n < 2 ^ 53) : IsWhole n x := by
  rwa [Counts, if_pos hn] at h

theorem isWhole_mul (hx : IsWhole a x) (hy : IsWhole b y) (h : a * b < 2 ^ 53) : IsWhole (a * b) (x.mul y) := by
  obtain ⟨num, den, hround, hd, hratio⟩ := exists_ratio_mul hx hy
  rw [hround]
  exact isWhole_ofRatio hd h (hratio.trans (Nat.cast_mul a b).symm)

theorem counts_mul (hx : Counts a x) (hy : Counts b y) (ha : 0 < a) (hb : 0 < b) : Counts (a * b) (x.mul y) := by
  unfold Counts
  split
  · rename_i h
    exact isWhole_mul (hx.isWhole ((Nat.le_mul_of_pos_right a hb).trans_lt h))
      (hy.isWhole ((Nat.le_mul_of_pos_left b ha).trans_lt h)) h
  · rename_i h
    have hx : AtLeast (min a (2 ^ 53)) x := hx.atLeast (Nat.min_le_left _ _) (Nat.min_le_right _ _)
    have hy : AtLeast (min b (2 ^ 53)) y := hy.atLeast (Nat.min_le_left _ _) (Nat.min_le_right _ _)
    have ha : 0 < min a (2 ^ 53) := Nat.lt_min.mpr ⟨ha, by decide⟩
    have hb : 0 < min b (2 ^ 53) := Nat.lt_min.mpr ⟨hb, by decide⟩
    refine atLeast_mul_of_pos hx hy ha hb le_rfl ?_
    rcases Nat.le_total a (2 ^ 53) with hle | hge
    · rcases Nat.le_total b (2 ^ 53) with hle' | hge'
      · rw [Nat.min_eq_left hle, Nat.min_eq_left hle']
        exact Nat.not_lt.mp h
      · rw [Nat.min_eq_right hge']
        exact Nat.le_mul_of_pos_left _ ha
    · rw [Nat.min_eq_right hge]
      exact Nat.le_mul_of_pos_right _ hb

theorem counts_pow (hx : IsWhole k x) (hk : 0 < k) (m : Nat) : Counts (k ^ m) (x.pow m) := by
  have hmul : ∀ i j x y, Counts (k ^ i) x → Counts (k ^ j) y → Counts (k ^ (i + j)) (x.mul y) := by
    intro i j x y hx hy
    rw [Nat.pow_add]
    exact counts_mul hx hy (Nat.pow_pos hk) (Nat.pow_pos hk)
  have hone : Counts (k ^ 0) one := isWhole_one.counts
  have hbase : Counts (k ^ 1) x := by
    rw [Nat.pow_one]
    exact hx.counts
  exact pow_induction (P := fun i => Counts (k ^ i)) (Q := fun i => Counts (k ^ i)) hmul
    (fun j y hy => hmul j j y y hy hy) hone hbase m

/-! The range of powers -/

/-- How much of a product is left by rounding, if the factors are at least one, -/
def shrink : ℚ := 1 - 1 / 2 ^ 52

/-- and how much it may become. -/
def swell : ℚ := 1 + 1 / 2 ^ 52

theorem shrink_pos : 0 < shrink := by norm_num [shrink]

theorem one_le_swell : 1 ≤ swell := by norm_num [swell]

theorem swell_pos : 0 < swell := zero_lt_one.trans_le one_le_swell

theorem swell_pow_le (hm : m ≤ 1024) : swell ^ m ≤ 3 / 2 := by
  have hfew : swell ^ 32 ≤ 1 + 1 / 2 ^ 46 := by norm_num [swell]
  calc swell ^ m ≤ swell ^ (32 * 32) := pow_le_pow_right₀ one_le_swell hm
    _ = (swell ^ 32) ^ 32 := pow_mul _ _ _
    _ ≤ (1 + 1 / 2 ^ 46) ^ 32 := pow_le_pow_left₀ (pow_nonneg swell_pos.le _) hfew _
    _ ≤ 3 / 2 := by norm_num

theorem le_shrink_pow (hm : m ≤ 2 ^ 51) : 1 / 2 ≤ shrink ^ m := by
  have hcast : (m : ℚ) ≤ 2 ^ 51 := by exact_mod_cast hm
  have hbernoulli := one_add_mul_le_pow (a := (-1 / 2 ^ 52 : ℚ)) (by norm_num) m
  rw [show (1 : ℚ) + -1 / 2 ^ 52 = shrink by norm_num [shrink]] at hbernoulli
  linarith

/-- The double is a number between two bounds and from one on, or infinite because the upper bound is too large. -/
def Between (low high : ℚ) (x : Binary64) : Prop :=
  (x = .infinite false ∧ overflowBound ≤ high) ∨ ∃ v, IsNumber v x ∧ 1 ≤ v ∧ low ≤ v ∧ v ≤ high

variable {low high low' high' : ℚ}

theorem Between.one_le (h : Between low high x) : 1 ≤ high := by
  rcases h with ⟨-, hbig⟩ | ⟨v, -, hone, -, hle⟩
  · exact one_le_overflowBound.trans hbig
  · exact hone.trans hle

theorem Between.atLeast (h : Between low high x) : AtLeast 1 x := by
  rcases h with ⟨rfl, -⟩ | ⟨v, hv, hone, -⟩
  · rfl
  · exact hv.atLeast_one hone

theorem Between.mono (h : Between low high x) (hlow : low' ≤ low) (hhigh : high ≤ high') : Between low' high' x :=
  h.imp (And.imp_right fun hbig => hbig.trans hhigh) fun ⟨v, hv, hone, hle, hge⟩ =>
    ⟨v, hv, hone, hlow.trans hle, hge.trans hhigh⟩

/-- A product of numbers is off by its own rounding. -/
theorem between_mul_of_numbers (hx : IsNumber v x) (hy : IsNumber w y) (hv : 1 ≤ v) (hw : 1 ≤ w) :
    Between (v * w * shrink) (v * w * swell) (x.mul y) := by
  have hprod : 1 ≤ v * w := one_le_mul_of_one_le_of_one_le hv hw
  rcases mul_near hx hy with ⟨hinf, hbig⟩ | ⟨z, hz, herror⟩
  · exact .inl ⟨hinf, hbig.trans (le_mul_of_one_le_right (zero_le_one.trans hprod) one_le_swell)⟩
  · have hone : AtLeast 1 (x.mul y) :=
      atLeast_mul_of_pos (hx.atLeast_one hv) (hy.atLeast_one hw) Nat.one_pos Nat.one_pos (by decide) le_rfl
    have hleast := least_error_le
    obtain ⟨hup, hdown⟩ := abs_sub_le_iff.mp herror
    refine .inr ⟨z, hz, by exact_mod_cast hz.le_of_atLeast hone, ?_, ?_⟩
    · rw [shrink]
      linarith
    · rw [swell]
      linarith

theorem between_mul (hlow : 0 ≤ low') (hx : Between low high x) (hy : Between low' high' y) :
    Between (low * low' * shrink) (high * high' * swell) (x.mul y) := by
  have hhigh := zero_le_one.trans hx.one_le
  have hswell : high * high' ≤ high * high' * swell :=
    le_mul_of_one_le_right (mul_nonneg hhigh (zero_le_one.trans hy.one_le)) one_le_swell
  rcases hx with ⟨rfl, hbig⟩ | ⟨v, hv, hvone, hvlow, hvhigh⟩
  · refine .inl ⟨infinite_mul hy.atLeast Nat.one_pos, ?_⟩
    exact hbig.trans ((le_mul_of_one_le_right hhigh hy.one_le).trans hswell)
  · rcases hy with ⟨rfl, hbig⟩ | ⟨w, hw, hwone, hwlow, hwhigh⟩
    · refine .inl ⟨mul_infinite (hv.atLeast_one hvone) Nat.one_pos, ?_⟩
      exact hbig.trans ((le_mul_of_one_le_left (zero_le_one.trans (one_le_overflowBound.trans hbig))
        (hvone.trans hvhigh)).trans hswell)
    · refine (between_mul_of_numbers hv hw hvone hwone).mono ?_ ?_
      · exact mul_le_mul_of_nonneg_right (mul_le_mul hvlow hwlow hlow hv.nonneg) shrink_pos.le
      · exact mul_le_mul_of_nonneg_right (mul_le_mul hvhigh hwhigh hw.nonneg hhigh) swell_pos.le

/-- Every factor of a power costs one rounding at most. -/
theorem between_pow (hx : IsWhole k x) (hk : 0 < k) (m : Nat) :
    Between ((k * shrink) ^ m) ((k * swell) ^ m) (x.pow m) := by
  have hrest : ∀ i, 0 ≤ (k * shrink) ^ i / shrink := fun i =>
    div_nonneg (pow_nonneg (mul_nonneg (Nat.cast_nonneg k) shrink_pos.le) i) shrink_pos.le
  refine pow_induction (P := fun i => Between ((k * shrink) ^ i) ((k * swell) ^ i))
    (Q := fun i => Between ((k * shrink) ^ i / shrink) ((k * swell) ^ i / swell)) ?_ ?_ ?_ ?_ m
  · intro i j x y hx hy
    have h := between_mul (hrest j) hx hy
    rwa [mul_assoc, mul_assoc, div_mul_cancel₀ _ shrink_pos.ne', div_mul_cancel₀ _ swell_pos.ne', ← pow_add, ← pow_add]
      at h
  · intro j y hy
    have h := between_mul (hrest j) hy hy
    rwa [mul_assoc, mul_assoc, div_mul_cancel₀ _ shrink_pos.ne', div_mul_cancel₀ _ swell_pos.ne', div_mul_eq_mul_div,
      div_mul_eq_mul_div, ← pow_add, ← pow_add] at h
  · exact .inr ⟨1, Nat.cast_one (R := ℚ) ▸ isWhole_one.isNumber, le_rfl, (pow_zero _).le, (pow_zero _).ge⟩
  · rw [pow_one, pow_one, mul_div_cancel_right₀ _ shrink_pos.ne', mul_div_cancel_right₀ _ swell_pos.ne']
    exact .inr ⟨k, hx.isNumber, by exact_mod_cast hk, le_rfl, le_rfl⟩

theorem pow_lt (hx : IsNumber v (x.pow m)) : v < 2 ^ 1024 := by
  have hone : ∀ v, IsNumber v one → v < 2 ^ 1024 := by
    rintro _ ⟨m, e, hx, rfl⟩
    exact ofRatio_lt Nat.one_pos (show ofRatio false 1 1 = _ from hx)
  exact pow_induction (P := fun _ x => ∀ v, IsNumber v x → v < 2 ^ 1024) (Q := fun _ _ => True)
    (fun _ _ _ _ _ _ _ => mul_lt) (fun _ _ _ => trivial) hone trivial m v hx

/-- A power is a number up to the greatest power of two that is one. -/
theorem isFinite_pow (hx : IsWhole k x) (hk : 0 < k) (h : k ^ m ≤ 2 ^ 1023) : (x.pow m).isFinite = true := by
  rcases Nat.lt_or_eq_of_le (Nat.succ_le_of_lt hk) with htwo | rfl
  · have hpow : 2 ^ m ≤ k ^ m := Nat.pow_le_pow_left htwo m
    have hm : m ≤ 1023 := (pow_le_pow_iff_right₀ Nat.one_lt_two).mp (hpow.trans h)
    have hhigh : (k * swell) ^ m ≤ 2 ^ 1023 * (3 / 2) := by
      rw [mul_pow]
      exact mul_le_mul (by exact_mod_cast h) (swell_pow_le (hm.trans (by decide))) (pow_nonneg swell_pos.le m)
        (by positivity)
    rcases between_pow hx hk m with ⟨-, hbig⟩ | ⟨v, ⟨_, _, hv, -⟩, -⟩
    · exact absurd hbig (not_le.mpr (lt_overflowBound_of_le hhigh))
    · rw [hv]
      rfl
  · have hwhole := (counts_pow hx hk m).isWhole (by rw [Nat.one_pow]; decide)
    exact hwhole.value_eq.1

/-- A power is infinite from 2 ^ 1025 on. -/
theorem pow_eq_infinite (hx : IsWhole k x) (hk : 0 < k) (hm : m ≤ 2 ^ 51) (h : 2 ^ 1025 ≤ k ^ m) :
    x.pow m = .infinite false := by
  have hlow : (2 : ℚ) ^ 1024 ≤ (k * shrink) ^ m := by
    rw [mul_pow]
    have hpow : (2 : ℚ) ^ 1025 ≤ k ^ m := by exact_mod_cast h
    rw [show 1025 = 1024 + 1 from rfl, pow_succ] at hpow
    have hprod : 2 ^ 1024 * 2 * (1 / 2) ≤ (k : ℚ) ^ m * shrink ^ m :=
      mul_le_mul hpow (le_shrink_pow hm) (by norm_num) (by positivity)
    rwa [mul_one_div, mul_div_cancel_right₀ _ two_ne_zero] at hprod
  rcases between_pow hx hk m with ⟨hinf, -⟩ | ⟨v, hv, -, hvlow, -⟩
  · exact hinf
  · exact absurd (pow_lt hv) (not_lt.mpr (hlow.trans hvlow))

/-! Products -/

/-- Nothing is a number any more that was multiplied by something that isn't one. -/
theorem isFinite_of_mul (h : (x.mul y).isFinite = true) : y.isFinite = true := by
  cases x with
  | nan => cases h
  | infinite s =>
    cases y with
    | nan | infinite => cases h
    | finite => rfl
  | finite s m e =>
    cases y with
    | nan => cases h
    | infinite t =>
      rw [mul] at h
      split at h <;> cases h
    | finite => rfl

theorem isWhole_zero_mul (hx : IsWhole 0 x) (hy : IsNumber v y) : IsWhole 0 (x.mul y) := by
  obtain ⟨num, den, hround, hd, hratio⟩ := exists_ratio_mul hx hy
  rw [hround]
  exact isWhole_ofRatio hd (by decide) (by rw [hratio, Nat.cast_zero, zero_mul])

end ProxyWatch.Binary64
