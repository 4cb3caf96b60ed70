import ProxyWatch.Proofs.Number.Rounding

/-! Doubles and whole numbers. Rounding doesn't lead across a whole number that a double can be, and so no product of
doubles that are at least one falls below one. -/
namespace ProxyWatch

theorem le_roundHalfEven {num den n : Nat} (hd : 0 < den) (h : (n : ℚ) ≤ num / den) : n ≤ roundHalfEven num den := by
  have hpos : (0 : ℚ) < den := by exact_mod_cast hd
  rw [le_div_iff₀ hpos] at h
  have hdiv : n ≤ num / den := (Nat.le_div_iff_mul_le hd).mpr (by exact_mod_cast h)
  unfold roundHalfEven
  simp only
  split
  · exact hdiv
  · split
    · exact Nat.le_succ_of_le hdiv
    · split
      · exact hdiv
      · exact Nat.le_succ_of_le hdiv

theorem roundHalfEven_le {num den n : Nat} (hd : 0 < den) (h : (num / den : ℚ) ≤ n) : roundHalfEven num den ≤ n := by
  have hpos : (0 : ℚ) < den := by exact_mod_cast hd
  rw [div_le_iff₀ hpos] at h
  have h : num ≤ n * den := by exact_mod_cast h
  have hdiv : num / den ≤ n := Nat.div_le_of_le_mul (by rwa [Nat.mul_comm] at h)
  have hsplit := Nat.div_add_mod num den
  unfold roundHalfEven
  rcases Nat.lt_or_eq_of_le hdiv with hlt | heq
  · simp only
    split
    · exact hdiv
    · split
      · exact hlt
      · split
        · exact hdiv
        · exact hlt
  · -- The ratio is the bound itself, so that nothing is rounded.
    rw [heq, Nat.mul_comm] at hsplit
    have hrest : num % den = 0 := by omega
    simp only [hrest, heq]
    exact Nat.le_of_eq (if_pos (by omega))

namespace Binary64

variable {num den m n : Nat} {e f : Int} {s t : Bool} {x y : Binary64}

/-! Rounding beside a whole number -/

theorem le_rounded (hd : 0 < den) (he : IsExponent (num / den) e) (hn : n ≤ 2 ^ 53) (h : (n : ℚ) ≤ num / den) :
    (n : ℚ) ≤ roundHalfEven (scaleDown num den e).1 (scaleDown num den e).2 * 2 ^ e := by
  have hpos : 0 < (scaleDown num den e).2 := scaleDown_pos hd e
  rcases le_or_gt e 0 with hle | hgt
  · -- The whole number is one of the mantissas.
    obtain ⟨j, rfl⟩ := Int.exists_eq_neg_ofNat hle
    have hq : n * 2 ^ j ≤ roundHalfEven _ _ := le_roundHalfEven hpos (by
      rw [scaleDown_ratio, zpow_neg, div_inv_eq_mul, zpow_natCast, Nat.cast_mul, Nat.cast_pow]
      exact mul_le_mul_of_nonneg_right h (by positivity))
    rw [zpow_neg, zpow_natCast, ← div_eq_mul_inv, le_div_iff₀ (by positivity)]
    exact_mod_cast hq
  · have hfull : (2 : ℚ) ^ (e + 52) ≤ num / den := he.le.resolve_left (by simp only [minExponent]; omega)
    have hq : 2 ^ 52 ≤ roundHalfEven _ _ := le_roundHalfEven hpos (by
      rw [zpow_add₀ two_ne_zero, mul_comm] at hfull
      rw [scaleDown_ratio, le_div_iff₀ (by positivity)]
      exact_mod_cast hfull)
    calc (n : ℚ) ≤ 2 ^ 53 := by exact_mod_cast hn
      _ = 2 ^ 52 * 2 ^ (1 : Int) := by norm_num
      _ ≤ 2 ^ 52 * 2 ^ e := mul_le_mul_of_nonneg_left (two_pow_le hgt) (by positivity)
      _ ≤ _ := mul_le_mul_of_nonneg_right (by exact_mod_cast hq) (by positivity)

theorem rounded_le (hd : 0 < den) (he : IsExponent (num / den) e) (hn : n < 2 ^ 53) (h : (num / den : ℚ) ≤ n) :
    roundHalfEven (scaleDown num den e).1 (scaleDown num den e).2 * 2 ^ e ≤ (n : ℚ) ∧ e ≤ 0 := by
  have hle : e ≤ 0 := by
    by_contra hgt
    have hfull : (2 : ℚ) ^ (e + 52) ≤ num / den := he.le.resolve_left (by simp only [minExponent]; omega)
    have hbig : (2 : ℚ) ^ (53 : Int) ≤ n := (two_pow_le (by omega)).trans (hfull.trans h)
    have hbig : 2 ^ 53 ≤ n := by exact_mod_cast hbig
    omega
  refine ⟨?_, hle⟩
  obtain ⟨j, rfl⟩ := Int.exists_eq_neg_ofNat hle
  have hpos : 0 < (scaleDown num den (-(j : Int))).2 := scaleDown_pos hd _
  have hq : roundHalfEven _ _ ≤ n * 2 ^ j := roundHalfEven_le hpos (by
    rw [scaleDown_ratio, zpow_neg, div_inv_eq_mul, zpow_natCast, Nat.cast_mul, Nat.cast_pow]
    exact mul_le_mul_of_nonneg_right h (by positivity))
  rw [zpow_neg, zpow_natCast, ← div_eq_mul_inv, div_le_iff₀ (by positivity)]
  exact_mod_cast hq

/-- A full mantissa moves up into the next binade, and the number stays. Beyond the last binade there is infinity. -/
theorem ofRatio_cases (s : Bool) (hn : 0 < num) (hd : 0 < den) : ∃ e q, IsExponent (num / den) e ∧
    q = roundHalfEven (scaleDown num den e).1 (scaleDown num den e).2 ∧
    ((maxExponent ≤ e ∧ (e = maxExponent → q = 2 ^ 53) ∧ ofRatio s num den = .infinite s) ∨
      ∃ m f, ofRatio s num den = .finite s m f ∧ m < 2 ^ 53 ∧ f ≤ maxExponent ∧ (m * 2 ^ f : ℚ) = q * 2 ^ e) := by
  have he := isExponent_exponentOf hn hd
  refine ⟨_, _, he, rfl, ?_⟩
  rw [ofRatio_of_isExponent hn hd he]
  have hq : roundHalfEven _ _ ≤ 2 ^ 53 := roundHalfEven_le (scaleDown_pos hd (exponentOf num den)) (by
    have hlt := he.lt
    rw [zpow_add₀ two_ne_zero, mul_comm] at hlt
    rw [scaleDown_ratio, div_le_iff₀ (by positivity)]
    exact_mod_cast hlt.le)
  generalize roundHalfEven _ _ = q at hq
  generalize exponentOf num den = e
  by_cases hfull : q = pow2 53
  · simp only [if_pos hfull]
    split
    · rename_i hbig
      exact .inl ⟨Int.lt_add_one_iff.mp hbig, fun _ => hfull, rfl⟩
    · rename_i hsmall
      refine .inr ⟨_, _, rfl, by decide, Int.not_lt.mp hsmall, ?_⟩
      rw [hfull, cast_pow2, cast_pow2, zpow_add_one₀ two_ne_zero]
      ring
  · simp only [if_neg hfull]
    split
    · rename_i hbig
      exact .inl ⟨Int.le_of_lt hbig, fun h => absurd h (Int.ne_of_gt hbig), rfl⟩
    · rename_i hsmall
      exact .inr ⟨_, _, rfl, Nat.lt_of_le_of_ne hq hfull, Int.not_lt.mp hsmall, rfl⟩

/-- The double is a whole number. -/
def IsWhole (n : Nat) (x : Binary64) : Prop := ∃ m e, x = .finite false m e ∧ (m * 2 ^ e : ℚ) = n

/-- The double is not below a whole number, if only because it is infinite. -/
def AtLeast (n : Nat) : Binary64 → Prop
  | nan => False
  | infinite s => s = false
  | finite s m e => s = false ∧ (n : ℚ) ≤ m * 2 ^ e

theorem IsWhole.atLeast (h : IsWhole n x) : AtLeast n x := by
  obtain ⟨m, e, rfl, hm⟩ := h
  exact ⟨rfl, hm.ge⟩

theorem atLeast_ofRatio (hd : 0 < den) (hn : n ≤ 2 ^ 53) (h : (n : ℚ) ≤ num / den) :
    AtLeast n (ofRatio false num den) := by
  rcases Nat.eq_zero_or_pos num with rfl | hpos
  · rw [Nat.cast_zero, zero_div] at h
    exact ⟨rfl, by rwa [Nat.cast_zero, zero_mul]⟩
  · obtain ⟨e, _, he, rfl, ⟨-, -, hx⟩ | ⟨m, f, hx, -, -, hm⟩⟩ := ofRatio_cases false hpos hd
    · rw [hx]
      rfl
    · rw [hx]
      exact ⟨rfl, hm ▸ le_rounded hd he hn h⟩

theorem isWhole_ofRatio (hd : 0 < den) (hn : n < 2 ^ 53) (h : (num / den : ℚ) = n) :
    IsWhole n (ofRatio false num den) := by
  rcases Nat.eq_zero_or_pos num with rfl | hpos
  · rw [Nat.cast_zero, zero_div] at h
    exact ⟨0, minExponent, rfl, by rwa [Nat.cast_zero, zero_mul]⟩
  · obtain ⟨e, _, he, rfl, hx⟩ := ofRatio_cases false hpos hd
    obtain ⟨hle, hexp⟩ := rounded_le hd he hn h.le
    rcases hx with ⟨hbig, -⟩ | ⟨m, f, hx, -, -, hm⟩
    · simp only [maxExponent] at hbig
      omega
    · exact ⟨m, f, hx, hm ▸ le_antisymm hle (le_rounded hd he hn.le h.ge)⟩

/-- A finite double is a ratio, and a product that has its value is rounded from there. -/
theorem exists_ratio (s : Bool) (m : Nat) (e : Int) : ∃ num den, (finite s m e).ratio? = some (num, den) ∧
    ofDyadic s m e = ofRatio s num den ∧ 0 < den ∧ (num / den : ℚ) = m * 2 ^ e := by
  cases e with
  | ofNat k =>
    refine ⟨_, 1, rfl, rfl, Nat.one_pos, ?_⟩
    rw [Nat.cast_mul, cast_pow2, Nat.cast_one, div_one]
    rfl
  | negSucc k =>
    refine ⟨_, _, rfl, rfl, Nat.two_pow_pos _, ?_⟩
    rw [zpow_negSucc, div_eq_mul_inv]
    exact_mod_cast rfl

theorem isWhole_ofNat (hn : n < 2 ^ 53) : IsWhole n (ofNat n) :=
  isWhole_ofRatio Nat.one_pos hn (by rw [Nat.cast_one, div_one])

/-! Order -/

/-- The number that a finite double is. -/
def value : Binary64 → ℚ
  | finite s m e => if s then -(m * 2 ^ e) else m * 2 ^ e
  | nan | infinite _ => 0

theorem cast_units {u : Int} (hu : u ≤ e) : (units s m e u : ℚ) * 2 ^ u = (finite s m e).value := by
  have hexp : (2 : ℚ) ^ (e - u).toNat * 2 ^ u = 2 ^ e := by
    rw [← zpow_natCast, Int.toNat_of_nonneg (by omega), ← zpow_add₀ two_ne_zero, Int.sub_add_cancel]
  have hcount : ((m * pow2 (e - u).toNat : Nat) : ℚ) * 2 ^ u = m * 2 ^ e := by
    rw [Nat.cast_mul, cast_pow2, mul_assoc, hexp]
  unfold units value
  cases s with
  | true => simp only [if_true, Int.cast_neg, Int.cast_natCast, neg_mul, hcount]
  | false => simpa using hcount

/-- Finite doubles are in the order of the numbers that they are. -/
theorem lt_iff_value (hx : x.isFinite = true) (hy : y.isFinite = true) : x.lt y = true ↔ x.value < y.value := by
  cases x with
  | nan | infinite => cases hx
  | finite s m e =>
    cases y with
    | nan | infinite => cases hy
    | finite t n f =>
      rw [← cast_units (Int.min_le_left e f), ← cast_units (Int.min_le_right e f),
        mul_lt_mul_iff_left₀ (by positivity)]
      exact decide_eq_true_iff.trans Int.cast_lt.symm

/-- A positive double is as large as its number. -/
theorem atLeast_of_value (hx : x.isFinite = true) (h : (n : ℚ) ≤ x.value) (hn : 0 < n) : AtLeast n x := by
  cases x with
  | nan | infinite => cases hx
  | finite s m e =>
    cases s with
    | true =>
      have hpos : (0 : ℚ) < n := by exact_mod_cast hn
      have hneg : (finite true m e).value ≤ 0 := neg_nonpos.mpr (by positivity)
      exact absurd (hpos.trans_le h) (not_lt.mpr hneg)
    | false => exact ⟨rfl, h⟩

theorem IsWhole.value_eq (h : IsWhole n x) : x.isFinite = true ∧ x.value = n := by
  obtain ⟨m, e, rfl, hm⟩ := h
  exact ⟨rfl, hm⟩

theorem AtLeast.le_value (h : AtLeast n x) (hx : x.isFinite = true) : (n : ℚ) ≤ x.value := by
  cases x with
  | nan | infinite => cases hx
  | finite s m e =>
    obtain ⟨rfl, hm⟩ := h
    exact hm

theorem AtLeast.not_lt_zero (h : AtLeast n x) : x.lt zero = false := by
  cases x with
  | nan => cases h
  | infinite s =>
    cases h
    rfl
  | finite s m e =>
    obtain ⟨rfl, hm⟩ := h
    refine Bool.eq_false_iff.mpr fun hlt => ?_
    have hneg := (lt_iff_value (y := zero) rfl rfl).mp hlt
    have hzero : zero.value = 0 := zero_mul _
    have hpos : 0 ≤ (finite false m e).value := (Nat.cast_nonneg n).trans hm
    exact absurd hneg (not_lt.mpr (hzero ▸ hpos))

/-! Operations -/

/-- The double is a number, and not a negative one. -/
def IsNumber (v : ℚ) (x : Binary64) : Prop := ∃ m e, x = .finite false m e ∧ (m * 2 ^ e : ℚ) = v

variable {v w : ℚ} {a b : Nat}

theorem IsNumber.nonneg (h : IsNumber v x) : 0 ≤ v := by
  obtain ⟨m, e, -, rfl⟩ := h
  positivity

theorem IsWhole.isNumber (h : IsWhole n x) : IsNumber n x := h

theorem isNumber_zero : IsNumber 0 zero := ⟨0, minExponent, rfl, by rw [Nat.cast_zero, zero_mul]⟩

theorem atLeast_iff : AtLeast n x ↔ x = .infinite false ∨ ∃ v, IsNumber v x ∧ (n : ℚ) ≤ v := by
  constructor
  · intro h
    cases x with
    | nan => cases h
    | infinite s =>
      cases h
      exact .inl rfl
    | finite s m e =>
      obtain ⟨rfl, hm⟩ := h
      exact .inr ⟨_, ⟨m, e, rfl, rfl⟩, hm⟩
  · rintro (rfl | ⟨v, ⟨m, e, rfl, rfl⟩, hv⟩)
    · rfl
    · exact ⟨rfl, hv⟩

/-- A product of numbers is rounded once. -/
theorem exists_ratio_mul (hx : IsNumber v x) (hy : IsNumber w y) :
    ∃ num den, x.mul y = ofRatio false num den ∧ 0 < den ∧ (num / den : ℚ) = v * w := by
  obtain ⟨m, e, rfl, rfl⟩ := hx
  obtain ⟨k, f, rfl, rfl⟩ := hy
  obtain ⟨num, den, -, hround, hd, hratio⟩ := exists_ratio false (m * k) (e + f)
  refine ⟨num, den, hround, hd, ?_⟩
  rw [hratio, Nat.cast_mul, zpow_add₀ two_ne_zero]
  ring

/-- A sum of numbers is rounded once. -/
theorem exists_ratio_add (hx : IsNumber v x) (hy : IsNumber w y) :
    ∃ num den, x.add y = ofRatio false num den ∧ 0 < den ∧ (num / den : ℚ) = v + w := by
  obtain ⟨m, e, rfl, hv⟩ := hx
  obtain ⟨k, f, rfl, hw⟩ := hy
  have hsum : ((units false m e (min e f) + units false k f (min e f) : Int) : ℚ) * 2 ^ min e f = v + w := by
    rw [Int.cast_add, add_mul, cast_units (Int.min_le_left e f), cast_units (Int.min_le_right e f), ← hv, ← hw]
    rfl
  have hnonneg : 0 ≤ units false m e (min e f) + units false k f (min e f) :=
    Int.add_nonneg (Int.natCast_nonneg _) (Int.natCast_nonneg _)
  simp only [add]
  generalize units false m e (min e f) + units false k f (min e f) = total at hsum hnonneg
  obtain ⟨count, rfl⟩ := Int.eq_ofNat_of_zero_le hnonneg
  rw [Int.cast_natCast] at hsum
  split
  · rename_i hz
    rw [Int.natCast_eq_zero.mp hz, Nat.cast_zero, zero_mul] at hsum
    exact ⟨0, 1, rfl, Nat.one_pos, by rw [Nat.cast_zero, zero_div, hsum]⟩
  · obtain ⟨num, den, -, hround, hd, hratio⟩ := exists_ratio false count (min e f)
    have hsign : decide ((count : Int) < 0) = false := decide_eq_false (Int.not_lt.mpr hnonneg)
    rw [hsign, Int.natAbs_natCast]
    exact ⟨num, den, hround, hd, hratio.trans hsum⟩

/-- A whole number stays what it is if nothing is added. -/
theorem isWhole_add_zero (hx : IsWhole n x) (hn : n < 2 ^ 53) : IsWhole n (x.add zero) := by
  obtain ⟨num, den, hround, hd, hratio⟩ := exists_ratio_add hx isNumber_zero
  rw [hround]
  exact isWhole_ofRatio hd hn (hratio.trans (add_zero _))

/-- A number above zero has a mantissa above zero. -/
theorem mantissa_ne_zero (hb : 0 < b) (h : (b : ℚ) ≤ m * 2 ^ e) : m ≠ 0 := by
  rintro rfl
  rw [Nat.cast_zero, zero_mul] at h
  have hpos : (0 : ℚ) < b := by exact_mod_cast hb
  exact absurd hpos (not_lt.mpr h)

theorem infinite_mul (hy : AtLeast b y) (hb : 0 < b) : (infinite false).mul y = .infinite false := by
  rcases atLeast_iff.mp hy with rfl | ⟨w, ⟨k, f, rfl, rfl⟩, hw⟩
  · rfl
  · rw [mul, if_neg (mantissa_ne_zero hb hw)]
    rfl

theorem mul_infinite (hx : AtLeast a x) (ha : 0 < a) : x.mul (infinite false) = .infinite false := by
  rcases atLeast_iff.mp hx with rfl | ⟨v, ⟨m, e, rfl, rfl⟩, hv⟩
  · rfl
  · rw [mul, if_neg (mantissa_ne_zero ha hv)]
    rfl

/-- A product is as large as that of the bounds, if it is a number: the one that isn't is that of zero and infinity. -/
theorem atLeast_mul (hx : AtLeast a x) (hy : AtLeast b y) (hb : 0 < b) (hn : n ≤ 2 ^ 53) (hle : n ≤ a * b) :
    AtLeast n (x.mul y) ∨ (a = 0 ∧ x.mul y = .nan) := by
  rcases atLeast_iff.mp hx with rfl | ⟨v, hv, hav⟩
  · rw [infinite_mul hy hb]
    exact .inl rfl
  · rcases atLeast_iff.mp hy with rfl | ⟨w, hw, hbw⟩
    · rcases Nat.eq_zero_or_pos a with rfl | ha
      · obtain ⟨m, e, rfl, rfl⟩ := hv
        rw [mul]
        split
        · exact .inr ⟨rfl, rfl⟩
        · exact .inl rfl
      · rw [mul_infinite hx ha]
        exact .inl rfl
    · left
      obtain ⟨num, den, hround, hd, hratio⟩ := exists_ratio_mul hv hw
      rw [hround]
      refine atLeast_ofRatio hd hn ?_
      calc (n : ℚ) ≤ (a * b : Nat) := by exact_mod_cast hle
        _ = a * b := Nat.cast_mul a b
        _ ≤ v * w := mul_le_mul hav hbw (Nat.cast_nonneg b) hv.nonneg
        _ = num / den := hratio.symm

theorem atLeast_mul_of_pos (hx : AtLeast a x) (hy : AtLeast b y) (ha : 0 < a) (hb : 0 < b) (hn : n ≤ 2 ^ 53)
    (hle : n ≤ a * b) : AtLeast n (x.mul y) :=
  (atLeast_mul hx hy hb hn hle).resolve_right fun h => ha.ne' h.1

theorem isWhole_one : IsWhole 1 one := isWhole_ofNat (by decide)

/-! Powers -/

/-- What holds of a power follows from what products keep. The loop multiplies what it has by a square, and a square by
itself. -/
theorem powLoop_induction {P Q : Nat → Binary64 → Prop} (mul : ∀ i j x y, P i x → Q j y → P (i + j) (x.mul y))
    (square : ∀ j y, Q j y → Q (j + j) (y.mul y)) {i j k : Nat} (hx : P i x) (hy : Q j y) :
    P (i + j * k) (powLoop x y k) := by
  induction k using Nat.strongRecOn generalizing i j x y with
  | ind k ih =>
    have hacc : P (i + j * (k % 2)) (if k % 2 = 1 then x.mul y else x) := by
      split
      · rename_i hodd
        rw [hodd, Nat.mul_one]
        exact mul i j x y hx hy
      · rename_i heven
        rw [show k % 2 = 0 by omega, Nat.mul_zero, Nat.add_zero]
        exact hx
    have hsplit := Nat.div_add_mod k 2
    rw [powLoop]
    split
    · rename_i hlast
      rw [show k % 2 = k by omega] at hacc ⊢
      exact hacc
    · have hrest := ih (k / 2) (by omega) hacc (square j y hy)
      rwa [show i + j * (k % 2) + (j + j) * (k / 2) = i + j * (2 * (k / 2) + k % 2) by ring, hsplit] at hrest

theorem pow_induction {P Q : Nat → Binary64 → Prop} (mul : ∀ i j x y, P i x → Q j y → P (i + j) (x.mul y))
    (square : ∀ j y, Q j y → Q (j + j) (y.mul y)) (hone : P 0 one) (hx : Q 1 x) (k : Nat) : P k (x.pow k) := by
  have h := powLoop_induction (k := k) mul square hone hx
  rwa [Nat.zero_add, Nat.one_mul] at h

/-- No power of what is at least one falls below one. -/
theorem atLeast_pow (hx : AtLeast 1 x) (k : Nat) : AtLeast 1 (x.pow k) :=
  have hmul : ∀ x y, AtLeast 1 x → AtLeast 1 y → AtLeast 1 (x.mul y) := fun _ _ hx hy =>
    atLeast_mul_of_pos hx hy Nat.one_pos Nat.one_pos (by decide) le_rfl
  pow_induction (P := fun _ => AtLeast 1) (Q := fun _ => AtLeast 1) (fun _ _ => hmul) (fun _ y hy => hmul y y hy hy)
    isWhole_one.atLeast hx k

end Binary64
end ProxyWatch
