import ProxyWatch.Proofs.Number.Binary64

/-! How far rounding leads. A double is off by a share of 2 ^ -53 at most, besides what the least exponent costs, and
only what is half a step beyond the greatest double is taken for infinite. -/
namespace ProxyWatch

theorem abs_sub_div_le {num den q : Nat} (hd : 0 < den) (hlow : 2 * (den * q) ≤ 2 * num + den)
    (hhigh : 2 * num ≤ 2 * (den * q) + den) : |(q : ℚ) - num / den| ≤ 1 / 2 := by
  have hpos : (0 : ℚ) < den := by exact_mod_cast hd
  have hlow : (2 * (den * q) : ℚ) ≤ 2 * num + den := by exact_mod_cast hlow
  have hhigh : (2 * num : ℚ) ≤ 2 * (den * q) + den := by exact_mod_cast hhigh
  rw [abs_sub_le_iff, sub_le_iff_le_add, sub_le_iff_le_add, ← sub_le_iff_le_add', le_div_iff₀ hpos, div_le_iff₀ hpos]
  constructor <;> linarith

theorem abs_roundHalfEven_sub_le {num den : Nat} (hd : 0 < den) :
    |(roundHalfEven num den : ℚ) - num / den| ≤ 1 / 2 := by
  have hsplit := Nat.div_add_mod num den
  have hrest := Nat.mod_lt num hd
  obtain ⟨hlow, hhigh⟩ : 2 * (den * roundHalfEven num den) ≤ 2 * num + den ∧
      2 * num ≤ 2 * (den * roundHalfEven num den) + den := by
    unfold roundHalfEven
    generalize num % den = r at hsplit hrest ⊢
    generalize num / den = q at hsplit ⊢
    have hnext : den * (q + 1) = den * q + den := Nat.mul_succ den q
    simp only
    split
    · omega
    · split
      · omega
      · split <;> omega
  exact abs_sub_div_le hd hlow hhigh

namespace Binary64

variable {num den m n : Nat} {e : Int} {s t : Bool} {x y : Binary64} {v w : ℚ}

/-- What is half a step beyond the greatest double is taken for infinite. -/
def overflowBound : ℚ := 2 ^ 1024 - 2 ^ 970

theorem one_le_overflowBound : 1 ≤ overflowBound := by
  have hone : (1 : ℚ) ≤ 2 ^ 970 := one_le_pow₀ one_le_two
  have hdouble : (2 : ℚ) ^ (970 + 1) ≤ 2 ^ 1024 := pow_le_pow_right₀ one_le_two (by decide)
  rw [pow_succ] at hdouble
  rw [overflowBound]
  generalize (2 : ℚ) ^ 1024 = top at hdouble ⊢
  generalize (2 : ℚ) ^ 970 = step at hone hdouble ⊢
  linarith

theorem lt_overflowBound_of_le (h : v ≤ 2 ^ 1023 * (3 / 2)) : v < overflowBound := by
  have hhalf : (2 : ℚ) ^ 970 < 2 ^ 1022 := pow_lt_pow_right₀ one_lt_two (by decide)
  rw [show 1023 = 1022 + 1 from rfl, pow_succ] at h
  rw [overflowBound, show 1024 = 1022 + 1 + 1 from rfl, pow_succ, pow_succ]
  generalize (2 : ℚ) ^ 1022 = quarter at h hhalf ⊢
  generalize (2 : ℚ) ^ 970 = step at hhalf ⊢
  linarith

theorem lt_overflowBound_of_small (h : v ≤ 2 ^ 64) : v < overflowBound := by
  have hpow : (2 : ℚ) ^ 64 ≤ 2 ^ 1023 := pow_le_pow_right₀ one_le_two (by decide)
  have hpos : (0 : ℚ) ≤ 2 ^ 1023 := by positivity
  exact lt_overflowBound_of_le (h.trans (hpow.trans (le_mul_of_one_le_right hpos (by norm_num))))

/-- The double is a number but for an error of its last digit. -/
def Approximates (v : ℚ) (x : Binary64) : Prop :=
  ∃ w, IsNumber w x ∧ |w - v| ≤ v / 2 ^ 53 + 2 ^ (-1075 : Int)

theorem least_error_le : (2 : ℚ) ^ (-1075 : Int) ≤ 1 / 2 ^ 53 := by
  have hle : (2 : ℚ) ^ (-1075 : Int) ≤ 2 ^ (-53 : Int) := two_pow_le (by decide)
  rwa [show (2 : ℚ) ^ (-53 : Int) = 1 / 2 ^ 53 by norm_num] at hle

/-- A mantissa is off by a half at most. -/
theorem abs_mantissa_sub_le (num : Nat) (hd : 0 < den) (e : Int) :
    |(roundHalfEven (scaleDown num den e).1 (scaleDown num den e).2 : ℚ) - num / den / 2 ^ e| ≤ 1 / 2 := by
  rw [← scaleDown_ratio]
  exact abs_roundHalfEven_sub_le (scaleDown_pos hd e)

theorem abs_rounded_sub_le (hd : 0 < den) (he : IsExponent (num / den) e) :
    |(roundHalfEven (scaleDown num den e).1 (scaleDown num den e).2 * 2 ^ e : ℚ) - num / den| ≤
      num / den / 2 ^ 53 + 2 ^ (-1075 : Int) := by
  have hstep : (0 : ℚ) < 2 ^ e := by positivity
  have herror := abs_mantissa_sub_le num hd e
  generalize roundHalfEven _ _ = q at herror ⊢
  have hhalf : |(q : ℚ) * 2 ^ e - num / den| ≤ 2 ^ e / 2 := by
    calc |(q : ℚ) * 2 ^ e - num / den| = |(q : ℚ) - num / den / 2 ^ e| * 2 ^ e := by
          rw [← abs_of_pos hstep, ← abs_mul, abs_of_pos hstep, sub_mul, div_mul_cancel₀ _ hstep.ne']
      _ ≤ 1 / 2 * 2 ^ e := mul_le_mul_of_nonneg_right herror hstep.le
      _ = 2 ^ e / 2 := by ring
  have hshare : (0 : ℚ) ≤ num / den / 2 ^ 53 := by positivity
  have hleast : (0 : ℚ) < 2 ^ (-1075 : Int) := by positivity
  refine hhalf.trans ?_
  rcases he.le with rfl | hfull
  · have : (2 : ℚ) ^ minExponent = 2 * 2 ^ (-1075 : Int) := by
      rw [← zpow_one_add₀ two_ne_zero]
      rfl
    linarith
  · have : (2 : ℚ) ^ e / 2 ≤ num / den / 2 ^ 53 := by
      rw [zpow_add₀ two_ne_zero, show (2 : ℚ) ^ (52 : Int) = 2 ^ 52 by norm_num] at hfull
      rw [le_div_iff₀ (by positivity)]
      linarith
    linarith

theorem overflowBound_le_of_infinite (hn : 0 < num) (hd : 0 < den) (h : ofRatio s num den = .infinite s) :
    overflowBound ≤ num / den := by
  obtain ⟨e, q, he, hq, ⟨hexp, hfull, -⟩ | ⟨m, f, hx, -⟩⟩ := ofRatio_cases s hn hd
  · rcases hexp.lt_or_eq with hlt | rfl
    · have hnormal : e ≠ minExponent := by
        simp only [maxExponent, minExponent] at *
        omega
      have hlow : (2 : ℚ) ^ (e + 52) ≤ num / den := he.le.resolve_left hnormal
      have hpow : (2 : ℚ) ^ (1024 : Int) ≤ 2 ^ (e + 52) := two_pow_le (by simp only [maxExponent] at hlt; omega)
      have hsub : overflowBound ≤ 2 ^ (1024 : Int) := sub_le_self _ (by positivity)
      exact hsub.trans (hpow.trans hlow)
    · have herror := (abs_sub_le_iff.mp (abs_mantissa_sub_le num hd maxExponent)).1
      rw [← hq, hfull rfl, sub_le_comm, le_div_iff₀ (by positivity)] at herror
      have hmost : (2 : ℚ) ^ maxExponent = 2 * 2 ^ 970 := by
        rw [← pow_succ', ← zpow_natCast]
        rfl
      rw [hmost, Nat.cast_pow, Nat.cast_ofNat] at herror
      rw [overflowBound, show 1024 = 54 + 970 from rfl, pow_add]
      generalize (2 : ℚ) ^ 970 = step at herror ⊢
      linarith
  · rw [h] at hx
    cases hx

/-- A ratio is rounded to a number near it, unless it is beyond the bound. -/
theorem ofRatio_near (hd : 0 < den) : (ofRatio false num den = .infinite false ∧ overflowBound ≤ num / den) ∨
    Approximates (num / den) (ofRatio false num den) := by
  rcases Nat.eq_zero_or_pos num with rfl | hn
  · refine .inr ⟨0, isNumber_zero, ?_⟩
    rw [Nat.cast_zero, zero_div, sub_zero, abs_zero]
    positivity
  · obtain ⟨e, q, he, rfl, ⟨-, -, hx⟩ | ⟨m, f, hx, -, -, hm⟩⟩ := ofRatio_cases false hn hd
    · exact .inl ⟨hx, overflowBound_le_of_infinite hn hd hx⟩
    · exact .inr ⟨_, ⟨m, f, hx, rfl⟩, hm ▸ abs_rounded_sub_le hd he⟩

theorem mul_near (hx : IsNumber v x) (hy : IsNumber w y) :
    (x.mul y = .infinite false ∧ overflowBound ≤ v * w) ∨ Approximates (v * w) (x.mul y) := by
  obtain ⟨num, den, hround, hd, hratio⟩ := exists_ratio_mul hx hy
  rw [hround, ← hratio]
  exact ofRatio_near hd

theorem approximates_mul (hx : IsNumber v x) (hy : IsNumber w y) (h : v * w < overflowBound) :
    Approximates (v * w) (x.mul y) :=
  (mul_near hx hy).resolve_left fun hbig => not_le.mpr h hbig.2

theorem approximates_add (hx : IsNumber v x) (hy : IsNumber w y) (h : v + w < overflowBound) :
    Approximates (v + w) (x.add y) := by
  obtain ⟨num, den, hround, hd, hratio⟩ := exists_ratio_add hx hy
  rw [← hratio] at h ⊢
  rw [hround]
  exact (ofRatio_near hd).resolve_left fun hbig => not_le.mpr h hbig.2

/-! Overflow -/

theorem ofRatio_lt (hd : 0 < den) (h : ofRatio s num den = .finite t m e) : (m * 2 ^ e : ℚ) < 2 ^ 1024 := by
  rcases Nat.eq_zero_or_pos num with rfl | hn
  · cases h
    rw [Nat.cast_zero, zero_mul]
    positivity
  · obtain ⟨_, _, -, -, ⟨-, -, hx⟩ | ⟨m', f, hx, hm, hf, -⟩⟩ := ofRatio_cases s hn hd
    · rw [h] at hx
      cases hx
    · rw [h] at hx
      cases hx
      have hpos : (0 : ℚ) < 2 ^ e := by positivity
      calc (m * 2 ^ e : ℚ) < 2 ^ 53 * 2 ^ e := mul_lt_mul_of_pos_right (by exact_mod_cast hm) hpos
        _ ≤ 2 ^ 53 * 2 ^ maxExponent := mul_le_mul_of_nonneg_left (two_pow_le hf) (by positivity)
        _ = 2 ^ 1024 := by
          rw [maxExponent, show (971 : Int) = (971 : Nat) from rfl, zpow_natCast, ← pow_add]

theorem mul_lt (h : IsNumber v (x.mul y)) : v < 2 ^ 1024 := by
  obtain ⟨m, e, hx, rfl⟩ := h
  cases x with
  | nan => cases hx
  | infinite s =>
    cases y with
    | nan | infinite => cases hx
    | finite t k f =>
      rw [mul] at hx
      split at hx <;> cases hx
  | finite s k f =>
    cases y with
    | nan => cases hx
    | infinite t =>
      rw [mul] at hx
      split at hx <;> cases hx
    | finite t l g =>
      obtain ⟨num, den, -, hround, hd, -⟩ := exists_ratio (s != t) (k * l) (f + g)
      exact ofRatio_lt hd (hround.symm.trans hx)

/-! Rounding to a natural number -/

theorem abs_roundToNat_sub_le {limit : Nat} (hx : IsNumber v x) (hv : v ≤ limit) :
    |(x.roundToNat limit : ℚ) - v| ≤ 1 / 2 := by
  obtain ⟨m, e, rfl, rfl⟩ := hx
  cases e with
  | ofNat k =>
    rw [Int.ofNat_eq_natCast, zpow_natCast] at hv ⊢
    have hround : (finite false m (.ofNat k)).roundToNat limit = min (m * pow2 k) limit := rfl
    have hle : m * pow2 k ≤ limit := by exact_mod_cast hv
    rw [← Int.ofNat_eq_natCast, hround, Nat.min_eq_left hle, Nat.cast_mul, cast_pow2, sub_self, abs_zero]
    positivity
  | negSucc k =>
    rw [zpow_negSucc, ← div_eq_mul_inv] at hv ⊢
    have hround : (finite false m (.negSucc k)).roundToNat limit = min ((2 * m + pow2 (k + 1)) / pow2 (k + 2)) limit :=
      rfl
    have hdouble : pow2 (k + 2) = 2 * pow2 (k + 1) := Nat.pow_succ'
    have hpos : 0 < pow2 (k + 1) := Nat.two_pow_pos _
    rw [← cast_pow2] at hv ⊢
    rw [hround, hdouble]
    generalize pow2 (k + 1) = d at hv hpos ⊢
    have hsplit := Nat.div_add_mod (2 * m + d) (2 * d)
    have hrest := Nat.mod_lt (2 * m + d) (show 0 < 2 * d by omega)
    rw [Nat.mul_assoc] at hsplit
    generalize (2 * m + d) / (2 * d) = q at hsplit ⊢
    generalize (2 * m + d) % (2 * d) = r at hsplit hrest
    have hle : q ≤ limit := by
      rw [div_le_iff₀ (by exact_mod_cast hpos)] at hv
      have hv : m ≤ d * limit := by
        rw [Nat.mul_comm]
        exact_mod_cast hv
      by_contra hgt
      have hnext : d * (limit + 1) ≤ d * q := Nat.mul_le_mul_left _ (Nat.succ_le_of_lt (Nat.not_le.mp hgt))
      rw [Nat.mul_succ] at hnext
      omega
    rw [Nat.min_eq_left hle]
    exact abs_sub_div_le hpos (by omega) (by omega)

end Binary64
end ProxyWatch
