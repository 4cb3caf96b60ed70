import Mathlib.Algebra.Order.Field.Power
import Mathlib.Data.Rat.Cast.Order
import Mathlib.Tactic.FieldSimp
import Mathlib.Tactic.Linarith
import Mathlib.Tactic.Positivity
import Mathlib.Tactic.Ring
import ProxyWatch.Number.Binary64

/-! The double that a ratio is rounded to. It depends on nothing but the ratio, and it is a given one if no other is as
near. -/
namespace ProxyWatch

@[simp] theorem cast_pow2 (k : Nat) : ((pow2 k : Nat) : ℚ) = 2 ^ k := Nat.cast_pow 2 k

@[simp] theorem cast_pow10 (k : Nat) : ((pow10 k : Nat) : ℚ) = 10 ^ k := Nat.cast_pow 10 k

/-! Rounding to a whole number -/

/-- A ratio is rounded to the whole number that is less than a half away. -/
theorem roundHalfEven_eq {num den n : Nat} (hlow : 2 * n * den < 2 * num + den) (hhigh : 2 * num < 2 * n * den + den) :
    roundHalfEven num den = n := by
  have hsplit := Nat.div_add_mod num den
  have hden : 0 < den := by omega
  have hrest := Nat.mod_lt num hden
  unfold roundHalfEven
  generalize num / den = q at hsplit ⊢
  generalize num % den = r at hsplit hrest ⊢
  have hle : n ≤ q + 1 := by
    by_contra h
    have : (q + 2) * den ≤ n * den := Nat.mul_le_mul_right _ (by omega)
    nlinarith
  have hge : q ≤ n := by
    by_contra h
    have : (n + 1) * den ≤ q * den := Nat.mul_le_mul_right _ (by omega)
    nlinarith
  simp only
  rcases Nat.lt_or_eq_of_le hge with hlt | rfl
  · obtain rfl : n = q + 1 := by omega
    have : 2 * r > den := by nlinarith
    rw [if_neg (by omega), if_pos this]
  · have : 2 * r < den := by nlinarith
    rw [if_pos this]

theorem roundHalfEven_scale {c num den : Nat} (hc : 0 < c) :
    roundHalfEven (c * num) (c * den) = roundHalfEven num den := by
  have hlt : 2 * (c * (num % den)) < c * den ↔ 2 * (num % den) < den := by
    rw [Nat.mul_left_comm]
    exact Nat.mul_lt_mul_left hc
  have hgt : 2 * (c * (num % den)) > c * den ↔ 2 * (num % den) > den := by
    rw [Nat.mul_left_comm]
    exact Nat.mul_lt_mul_left hc
  simp only [roundHalfEven, Nat.mul_div_mul_left num den hc, Nat.mul_mod_mul_left, hlt, hgt]

namespace Binary64

variable {num den num' den' m : Nat} {e f : Int} {s : Bool}

/-! The exponent -/

theorem scaleDown_pos (hd : 0 < den) (e : Int) : 0 < (scaleDown num den e).2 := by
  cases e with
  | ofNat k => exact Nat.mul_pos hd (Nat.two_pow_pos k)
  | negSucc k => exact hd

theorem scaleDown_ratio (num den : Nat) (e : Int) :
    ((scaleDown num den e).1 : ℚ) / (scaleDown num den e).2 = num / den / 2 ^ e := by
  cases e with
  | ofNat k =>
    simp only [scaleDown, Int.ofNat_eq_natCast, zpow_natCast]
    rw [Nat.cast_mul, cast_pow2, div_div]
  | negSucc k =>
    simp only [scaleDown, zpow_negSucc]
    rw [Nat.cast_mul, cast_pow2, div_inv_eq_mul, div_mul_eq_mul_div]

/-- The exponent of a ratio puts it below 2 ^ 53 mantissas, and above the half of them unless it is the least. -/
structure IsExponent (v : ℚ) (e : Int) : Prop where
  least : minExponent ≤ e
  lt : v < 2 ^ (e + 53)
  le : e = minExponent ∨ 2 ^ (e + 52) ≤ v

theorem two_pow_le {a b : Int} (h : a ≤ b) : (2 : ℚ) ^ a ≤ 2 ^ b := zpow_le_zpow_right₀ one_le_two h

theorem lt_of_two_pow_lt {a b : Int} (h : (2 : ℚ) ^ a < 2 ^ b) : a < b := (zpow_lt_zpow_iff_right₀ one_lt_two).mp h

theorem IsExponent.unique {v : ℚ} (h : IsExponent v e) (h' : IsExponent v f) : e = f := by
  have hle : ∀ {a b : Int}, IsExponent v a → IsExponent v b → a ≤ b := by
    intro a b ha hb
    rcases ha.le with hmin | hlow
    · exact hmin ▸ hb.least
    · have := lt_of_two_pow_lt (lt_of_le_of_lt hlow hb.lt)
      omega
  exact Int.le_antisymm (hle h h') (hle h' h)

/-- The lengths of numerator and denominator tell a ratio up to a factor of four. -/
theorem ratio_log2 (hn : 0 < num) (hd : 0 < den) : (2 : ℚ) ^ ((num.log2 : Int) - den.log2 - 1) < num / den ∧
    (num / den : ℚ) < 2 ^ ((num.log2 : Int) - den.log2 + 1) := by
  have hnl : (2 : ℚ) ^ (num.log2 : Int) ≤ num := by
    rw [zpow_natCast]
    exact_mod_cast Nat.log2_self_le hn.ne'
  have hnu : (num : ℚ) < 2 ^ ((num.log2 : Int) + 1) := by
    have := Nat.lt_log2_self (n := num)
    rw [show ((num.log2 : Int) + 1) = ((num.log2 + 1 : Nat) : Int) by push_cast; rfl, zpow_natCast]
    exact_mod_cast this
  have hdl : (2 : ℚ) ^ (den.log2 : Int) ≤ den := by
    rw [zpow_natCast]
    exact_mod_cast Nat.log2_self_le hd.ne'
  have hdu : (den : ℚ) < 2 ^ ((den.log2 : Int) + 1) := by
    have := Nat.lt_log2_self (n := den)
    rw [show ((den.log2 : Int) + 1) = ((den.log2 + 1 : Nat) : Int) by push_cast; rfl, zpow_natCast]
    exact_mod_cast this
  have hpos : (0 : ℚ) < den := by exact_mod_cast hd
  have htwo : (2 : ℚ) ≠ 0 := two_ne_zero
  constructor
  · rw [lt_div_iff₀ hpos]
    calc (2 : ℚ) ^ ((num.log2 : Int) - den.log2 - 1) * den
        < 2 ^ ((num.log2 : Int) - den.log2 - 1) * 2 ^ ((den.log2 : Int) + 1) :=
          mul_lt_mul_of_pos_left hdu (by positivity)
      _ = 2 ^ (num.log2 : Int) := by rw [← zpow_add₀ htwo]; congr 1; omega
      _ ≤ num := hnl
  · rw [div_lt_iff₀ hpos]
    calc (num : ℚ) < 2 ^ ((num.log2 : Int) + 1) := hnu
      _ = 2 ^ ((num.log2 : Int) - den.log2 + 1) * 2 ^ (den.log2 : Int) := by
          rw [← zpow_add₀ htwo]; congr 1; omega
      _ ≤ 2 ^ ((num.log2 : Int) - den.log2 + 1) * den := mul_le_mul_of_nonneg_left hdl (by positivity)

theorem isExponent_exponentOf (hn : 0 < num) (hd : 0 < den) : IsExponent (num / den) (exponentOf num den) := by
  obtain ⟨hlow, hhigh⟩ := ratio_log2 hn hd
  unfold exponentOf
  generalize hl : max ((num.log2 : Int) - den.log2 - 53) minExponent = low
  have hfits : (scaleDown num den low).1 / (scaleDown num den low).2 < pow2 53 ↔ (num / den : ℚ) < 2 ^ (low + 53) := by
    have hpos : 0 < (scaleDown num den low).2 := scaleDown_pos hd low
    have hq : (0 : ℚ) < (scaleDown num den low).2 := by exact_mod_cast hpos
    rw [Nat.div_lt_iff_lt_mul hpos, zpow_add₀ two_ne_zero, mul_comm ((2 : ℚ) ^ low),
      ← div_lt_iff₀ (by positivity : (0 : ℚ) < 2 ^ low), ← scaleDown_ratio, div_lt_iff₀ hq]
    norm_num
    exact_mod_cast Iff.rfl
  simp only
  split
  · rename_i h
    refine ⟨by omega, hfits.mp h, ?_⟩
    by_cases hmin : low = minExponent
    · exact .inl hmin
    · have : low = (num.log2 : Int) - den.log2 - 53 := by omega
      exact .inr (le_of_lt (by rwa [show low + 52 = (num.log2 : Int) - den.log2 - 1 by omega]))
  · rename_i h
    have hge : (2 : ℚ) ^ (low + 53) ≤ num / den := not_lt.mp (mt hfits.mpr h)
    refine ⟨by omega, hhigh.trans_le (two_pow_le (by omega)), .inr ?_⟩
    rwa [show low + 1 + 52 = low + 53 by omega]

/-! The mantissa -/

/-- A double is what a ratio is rounded to if its parts are those of the rounded ratio. -/
theorem ofRatio_of_isExponent (hn : 0 < num) (hd : 0 < den) (he : IsExponent (num / den) e) :
    ofRatio s num den =
      let q := roundHalfEven (scaleDown num den e).1 (scaleDown num den e).2
      let x := if q = pow2 53 then (pow2 52, e + 1) else (q, e)
      if x.2 > maxExponent then .infinite s else .finite s x.1 x.2 := by
  rw [ofRatio, if_neg hn.ne', he.unique (isExponent_exponentOf hn hd)]

theorem scaleDown_scale (c num den : Nat) (e : Int) :
    scaleDown (c * num) (c * den) e = (c * (scaleDown num den e).1, c * (scaleDown num den e).2) := by
  cases e with
  | ofNat k => simp only [scaleDown, Nat.mul_assoc]
  | negSucc k => simp only [scaleDown, Nat.mul_assoc]

theorem ofRatio_scale {c : Nat} (hc : 0 < c) (hd : 0 < den) : ofRatio s (c * num) (c * den) = ofRatio s num den := by
  rcases Nat.eq_zero_or_pos num with rfl | hn
  · rfl
  · have hsame : ((c * num : Nat) : ℚ) / (c * den : Nat) = num / den := by
      push_cast
      exact mul_div_mul_left _ _ (by exact_mod_cast hc.ne')
    have he := isExponent_exponentOf hn hd
    rw [ofRatio_of_isExponent hn hd he, ofRatio_of_isExponent (Nat.mul_pos hc hn) (Nat.mul_pos hc hd) (hsame ▸ he),
      scaleDown_scale, roundHalfEven_scale hc]

/-- What a ratio is rounded to depends on the ratio alone. -/
theorem ofRatio_congr (hd : 0 < den) (hd' : 0 < den') (h : (num / den : ℚ) = num' / den') :
    ofRatio s num den = ofRatio s num' den' := by
  have hcross : num * den' = num' * den := by
    rw [div_eq_div_iff (by exact_mod_cast hd.ne') (by exact_mod_cast hd'.ne')] at h
    exact_mod_cast h
  rw [← ofRatio_scale hd' hd, ← ofRatio_scale hd hd', Nat.mul_comm den' num, hcross, Nat.mul_comm num' den,
    Nat.mul_comm den' den]

/-! The nearest double -/

/-- The parts of a positive finite double. -/
structure IsPositive (m : Nat) (e : Int) : Prop where
  pos : 0 < m
  lt : m < 2 ^ 53
  least : minExponent ≤ e
  most : e ≤ maxExponent
  full : e = minExponent ∨ 2 ^ 52 ≤ m

/-- A ratio is nearer to a positive finite double than to any other: less than a half step away, and below a power of
two, where the steps are half as long, less than a quarter step. -/
structure IsNear (v : ℚ) (m : Nat) (e : Int) : Prop where
  lower : (m - 1 / 2) * 2 ^ e < v
  upper : v < (m + 1 / 2) * 2 ^ e
  edge : m = 2 ^ 52 → e ≠ minExponent → (m - 1 / 4) * 2 ^ e < v

theorem isExponent_of_isNear {v : ℚ} (hx : IsPositive m e) (h : IsNear v m e) (hv : e = minExponent ∨ 2 ^ (e + 52) ≤ v) :
    IsExponent v e where
  least := hx.least
  lt := by
    have hm : (m : ℚ) + 1 ≤ 2 ^ 53 := by exact_mod_cast hx.lt
    have hpos : (0 : ℚ) < 2 ^ e := by positivity
    rw [zpow_add₀ two_ne_zero]
    calc v < (m + 1 / 2) * 2 ^ e := h.upper
      _ ≤ 2 ^ 53 * 2 ^ e := by nlinarith
      _ = 2 ^ e * 2 ^ (53 : Int) := by norm_num [mul_comm]
  le := hv

theorem roundHalfEven_of_near {num den n : Nat} (hd : 0 < den) (hlow : (n - 1 / 2 : ℚ) < num / den)
    (hhigh : (num / den : ℚ) < n + 1 / 2) : roundHalfEven num den = n := by
  have hpos : (0 : ℚ) < den := by exact_mod_cast hd
  rw [lt_div_iff₀ hpos] at hlow
  rw [div_lt_iff₀ hpos] at hhigh
  have hlow : (2 * n * den : ℚ) < 2 * num + den := by linarith
  have hhigh : (2 * num : ℚ) < 2 * n * den + den := by linarith
  exact roundHalfEven_eq (by exact_mod_cast hlow) (by exact_mod_cast hhigh)

/-- A ratio is rounded to the double that it is near to. -/
theorem ofRatio_of_isNear (hn : 0 < num) (hd : 0 < den) (hx : IsPositive m e) (h : IsNear (num / den) m e) :
    ofRatio s num den = .finite s m e := by
  have hpos : (0 : ℚ) < 2 ^ e := by positivity
  by_cases hv : e = minExponent ∨ (2 : ℚ) ^ (e + 52) ≤ num / den
  · have hq : roundHalfEven (scaleDown num den e).1 (scaleDown num den e).2 = m := by
      apply roundHalfEven_of_near (scaleDown_pos hd e)
      · rw [scaleDown_ratio, lt_div_iff₀ hpos]
        exact h.lower
      · rw [scaleDown_ratio, div_lt_iff₀ hpos]
        exact h.upper
    have hm : m ≠ pow2 53 := hx.lt.ne
    rw [ofRatio_of_isExponent hn hd (isExponent_of_isNear hx h hv)]
    simp only [hq, if_neg hm]
    rw [if_neg (not_lt.mpr hx.most)]
  · -- The ratio lies below the power of two that the double is, where the exponent is one less.
    obtain ⟨hmin, hv⟩ := not_or.mp hv
    have hv := not_le.mp hv
    rw [zpow_add₀ two_ne_zero, show (2 : ℚ) ^ (52 : Int) = 2 ^ 52 by norm_num] at hv
    have hfull : 2 ^ 52 ≤ m := hx.full.resolve_left hmin
    obtain rfl : m = 2 ^ 52 := by
      by_contra hne
      have hm : (2 ^ 52 : ℚ) + 1 ≤ m := by exact_mod_cast Nat.lt_of_le_of_ne hfull (Ne.symm hne)
      have := h.lower
      nlinarith
    have hedge := h.edge rfl hmin
    have hhalf : (2 : ℚ) ^ e = 2 * 2 ^ (e - 1) := by
      rw [zpow_sub_one₀ two_ne_zero]
      ring
    have hhalfPos : (0 : ℚ) < 2 ^ (e - 1) := by positivity
    push_cast at hedge hv
    rw [hhalf] at hedge hv
    have he : IsExponent (num / den) (e - 1) := by
      have := hx.least
      refine ⟨by omega, ?_, .inr ?_⟩
      · rw [zpow_add₀ two_ne_zero, show (2 : ℚ) ^ (53 : Int) = 2 ^ 53 by norm_num]
        linarith
      · rw [zpow_add₀ two_ne_zero, show (2 : ℚ) ^ (52 : Int) = 2 ^ 52 by norm_num]
        nlinarith
    have hq : roundHalfEven (scaleDown num den (e - 1)).1 (scaleDown num den (e - 1)).2 = pow2 53 := by
      apply roundHalfEven_of_near (scaleDown_pos hd _)
      · rw [scaleDown_ratio, lt_div_iff₀ hhalfPos, cast_pow2]
        linarith
      · rw [scaleDown_ratio, div_lt_iff₀ hhalfPos, cast_pow2]
        nlinarith
    rw [ofRatio_of_isExponent hn hd he]
    simp only [hq, if_true, Int.sub_add_cancel]
    exact if_neg (not_lt.mpr hx.most)

end Binary64
end ProxyWatch
