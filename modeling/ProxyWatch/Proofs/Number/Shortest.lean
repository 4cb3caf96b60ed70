import ProxyWatch.Number.Shortest
import ProxyWatch.Proofs.Number.Rounding
import ProxyWatch.Proofs.Text.Numeral

/-! The shortest decimal of a double is read as that double. Seventeen digits are always enough, because seventeen-digit
decimals lie closer together than doubles do. -/
namespace ProxyWatch

/-! The number of digits -/

namespace Decimal

theorem lt_pow_length (n : Nat) : n < 10 ^ (digits n).length := by
  refine digits_induction (P := fun n cs => n < 10 ^ cs.length) ?_ ?_ n
  · intro d h
    simpa using h
  · intro n d _ hd ih
    rw [List.length_append, List.length_singleton, Nat.pow_succ]
    omega

theorem pow_length_le {n : Nat} (h : 0 < n) : 10 ^ ((digits n).length - 1) ≤ n := by
  refine digits_induction (P := fun n cs => 0 < n → 10 ^ (cs.length - 1) ≤ n) ?_ ?_ n h
  · intro d _ hd
    exact hd
  · intro n d hn _ ih _
    have hlen : 0 < (digits n).length := List.length_pos_of_ne_nil (digits_ne_nil n)
    have hle : 10 ^ ((digits n).length - 1) ≤ n := ih hn
    have hpow : 10 ^ (digits n).length = 10 ^ ((digits n).length - 1) * 10 := by
      rw [← Nat.pow_succ]
      congr 1
      omega
    rw [List.length_append, List.length_singleton, Nat.add_sub_cancel, hpow]
    omega

theorem length_digits_eq {n l : Nat} (hlow : 10 ^ l ≤ n) (hhigh : n < 10 ^ (l + 1)) : (digits n).length = l + 1 := by
  have hn : 0 < n := Nat.lt_of_lt_of_le (Nat.pow_pos (by omega)) hlow
  have hup : l < (digits n).length := (Nat.pow_lt_pow_iff_right (by omega)).mp (Nat.lt_of_le_of_lt hlow (lt_pow_length n))
  have hdown : (digits n).length - 1 < l + 1 :=
    (Nat.pow_lt_pow_iff_right (by omega)).mp (Nat.lt_of_le_of_lt (pow_length_le hn) hhigh)
  omega

theorem length_digits_shift {n : Nat} (h : 0 < n) (j : Nat) : (digits (n * 10 ^ j)).length = (digits n).length + j := by
  have hlen : 0 < (digits n).length := List.length_pos_of_ne_nil (digits_ne_nil n)
  have hten : 0 < 10 ^ j := Nat.pow_pos (by omega)
  have hlow : 10 ^ ((digits n).length - 1 + j) ≤ n * 10 ^ j := by
    rw [Nat.pow_add]
    exact Nat.mul_le_mul_right _ (pow_length_le h)
  have hhigh : n * 10 ^ j < 10 ^ ((digits n).length - 1 + j + 1) := by
    rw [show (digits n).length - 1 + j + 1 = (digits n).length + j by omega, Nat.pow_add]
    exact Nat.mul_lt_mul_of_pos_right (lt_pow_length n) hten
  have := length_digits_eq hlow hhigh
  omega

end Decimal

namespace Binary64

variable {num den m d : Nat} {e k : Int} {s : Bool}

/-! Decimals as ratios -/

/-- The ratio that is rounded for a decimal. -/
def decimalRatio (d : Nat) : Int → Nat × Nat
  | .ofNat k => (d * pow10 k, 1)
  | .negSucc k => (d, pow10 (k + 1))

theorem decimalRatio_eq (d : Nat) (k : Int) : ((decimalRatio d k).1 : ℚ) / (decimalRatio d k).2 = d * 10 ^ k := by
  cases k with
  | ofNat k =>
    simp only [decimalRatio, Int.ofNat_eq_natCast, zpow_natCast]
    rw [Nat.cast_mul, cast_pow10, Nat.cast_one, div_one]
  | negSucc k =>
    simp only [decimalRatio, zpow_negSucc]
    rw [cast_pow10, div_eq_mul_inv]

theorem decimalRatio_pos (hd : 0 < d) (k : Int) : 0 < (decimalRatio d k).1 ∧ 0 < (decimalRatio d k).2 := by
  cases k with
  | ofNat k => exact ⟨Nat.mul_pos hd (Nat.pow_pos (by omega)), Nat.one_pos⟩
  | negSucc k => exact ⟨hd, Nat.pow_pos (by omega)⟩

theorem ofDecimal_eq (hd : 0 < d) : ofDecimal s d k =
    if k + (Decimal.digits d).length > 400 then .infinite s
    else if k + (Decimal.digits d).length < -400 then .finite s 0 minExponent
    else ofRatio s (decimalRatio d k).1 (decimalRatio d k).2 := by
  unfold ofDecimal
  rw [if_neg hd.ne']
  cases k <;> rfl

/-- Zeros behind the digits are as good as a larger exponent. -/
theorem ofDecimal_shift (hd : 0 < d) (j : Nat) : ofDecimal s (d * 10 ^ j) k = ofDecimal s d (k + j) := by
  have hd' : 0 < d * 10 ^ j := Nat.mul_pos hd (Nat.pow_pos (by omega))
  have hlen : k + ((Decimal.digits (d * 10 ^ j)).length : Int) = k + j + (Decimal.digits d).length := by
    rw [Decimal.length_digits_shift hd]
    push_cast
    omega
  have hvalue : ((d * 10 ^ j : Nat) : ℚ) * 10 ^ k = d * 10 ^ (k + j) := by
    rw [zpow_add₀ (by norm_num), zpow_natCast]
    push_cast
    ring
  have hratio : ofRatio s (decimalRatio (d * 10 ^ j) k).1 (decimalRatio (d * 10 ^ j) k).2 =
      ofRatio s (decimalRatio d (k + j)).1 (decimalRatio d (k + j)).2 := by
    apply ofRatio_congr (decimalRatio_pos hd' k).2 (decimalRatio_pos hd (k + j)).2
    rw [decimalRatio_eq, decimalRatio_eq, hvalue]
  rw [ofDecimal_eq hd', ofDecimal_eq hd, hlen, hratio]

/-- No double is so large or so small that its decimals are decided by size alone. -/
theorem ofDecimal_of_range (hd : 0 < d) (hlow : (10 : ℚ) ^ (-400 : Int) ≤ d * 10 ^ k)
    (hhigh : (d * 10 ^ k : ℚ) < 10 ^ (400 : Int)) :
    ofDecimal s d k = ofRatio s (decimalRatio d k).1 (decimalRatio d k).2 := by
  have hten : (0 : ℚ) < 10 ^ k := by positivity
  have hlen : 0 < (Decimal.digits d).length := List.length_pos_of_ne_nil (Decimal.digits_ne_nil d)
  have hup : (d * 10 ^ k : ℚ) < 10 ^ (k + (Decimal.digits d).length) := by
    rw [zpow_add₀ (by norm_num), zpow_natCast, mul_comm]
    exact mul_lt_mul_of_pos_left (by exact_mod_cast Decimal.lt_pow_length d) hten
  have hdown : (10 : ℚ) ^ (k + (Decimal.digits d).length - 1) ≤ d * 10 ^ k := by
    rw [show k + ((Decimal.digits d).length : Int) - 1 = ((Decimal.digits d).length - 1 : Nat) + k by omega,
      zpow_add₀ (by norm_num), zpow_natCast]
    exact mul_le_mul_of_nonneg_right (by exact_mod_cast Decimal.pow_length_le hd) hten.le
  have hmin : (-400 : Int) < k + (Decimal.digits d).length :=
    (zpow_lt_zpow_iff_right₀ (by norm_num : (1 : ℚ) < 10)).mp (lt_of_le_of_lt hlow hup)
  have hmax : k + (Decimal.digits d).length - 1 < (400 : Int) :=
    (zpow_lt_zpow_iff_right₀ (by norm_num : (1 : ℚ) < 10)).mp (lt_of_le_of_lt hdown hhigh)
  rw [ofDecimal_eq hd, if_neg (by omega), if_neg (by omega)]

/-- All doubles lie well within these powers of ten. -/
theorem two_pow_le_ten_pow : (2 : ℚ) ^ (1100 : Int) ≤ 10 ^ (400 : Int) := by
  have h : ((2 : ℚ) ^ 11) ^ 100 ≤ (10 ^ 4) ^ 100 := pow_le_pow_left₀ (by norm_num) (by norm_num) 100
  rw [← pow_mul, ← pow_mul, ← zpow_natCast, ← zpow_natCast] at h
  exact h

/-- A decimal is read as the double that it is near to. -/
theorem ofDecimal_of_isNear (hd : 0 < d) (hx : IsPositive m e) (h : IsNear (d * 10 ^ k) m e) :
    ofDecimal s d k = .finite s m e := by
  have hm : (1 : ℚ) ≤ m := by exact_mod_cast hx.pos
  have hmax : (m : ℚ) + 1 ≤ 2 ^ 53 := by exact_mod_cast hx.lt
  have hpos : (0 : ℚ) < 2 ^ e := by positivity
  have hlow : (10 : ℚ) ^ (-400 : Int) ≤ d * 10 ^ k := by
    calc (10 : ℚ) ^ (-400 : Int) ≤ 2 ^ (-1100 : Int) := by
          rw [zpow_neg, zpow_neg]
          exact inv_anti₀ (by positivity) two_pow_le_ten_pow
      _ ≤ 2 ^ (-1 + -1074 : Int) := two_pow_le (by omega)
      _ = 1 / 2 * 2 ^ (-1074 : Int) := by rw [zpow_add₀ two_ne_zero, zpow_neg_one, one_div]
      _ ≤ 1 / 2 * 2 ^ e := mul_le_mul_of_nonneg_left (two_pow_le hx.least) (by norm_num)
      _ ≤ (m - 1 / 2) * 2 ^ e := by nlinarith
      _ ≤ d * 10 ^ k := h.lower.le
  have hhigh : (d * 10 ^ k : ℚ) < 10 ^ (400 : Int) := by
    calc (d * 10 ^ k : ℚ) < (m + 1 / 2) * 2 ^ e := h.upper
      _ ≤ 2 ^ 53 * 2 ^ e := by nlinarith
      _ ≤ 2 ^ 53 * 2 ^ (971 : Int) := mul_le_mul_of_nonneg_left (two_pow_le hx.most) (by norm_num)
      _ = 2 ^ (53 + 971 : Int) := by rw [zpow_add₀ two_ne_zero, show (2 : ℚ) ^ (53 : Int) = 2 ^ 53 by norm_num]
      _ ≤ 2 ^ (1100 : Int) := two_pow_le (by omega)
      _ ≤ 10 ^ (400 : Int) := two_pow_le_ten_pow
  rw [ofDecimal_of_range hd hlow hhigh]
  have hratio := decimalRatio_pos hd k
  exact ofRatio_of_isNear hratio.1 hratio.2 hx (by rwa [decimalRatio_eq])

theorem finite_of_ofRatio (h : ofRatio false num den = .finite false m e) : ofRatio s num den = .finite s m e := by
  rcases Nat.eq_zero_or_pos num with rfl | hn
  · cases h
    rfl
  · obtain ⟨x, hx⟩ : ∃ x : Nat × Int, ∀ s, ofRatio s num den =
        if x.2 > maxExponent then .infinite s else .finite s x.1 x.2 :=
      ⟨_, fun s => by rw [ofRatio, if_neg hn.ne']⟩
    rw [hx] at h ⊢
    split at h
    · cases h
    · rename_i hmax
      cases h
      rw [if_neg hmax]

/-- A sign in front of a decimal is the sign of its double. -/
theorem finite_of_ofDecimal (h : ofDecimal false d k = .finite false m e) : ofDecimal s d k = .finite s m e := by
  rcases Nat.eq_zero_or_pos d with rfl | hd
  · cases h
    rfl
  · rw [ofDecimal_eq hd] at h ⊢
    split at h
    · cases h
    · rename_i hlarge
      rw [if_neg hlarge]
      split at h
      · rename_i hsmall
        cases h
        rw [if_pos hsmall]
      · rename_i hsmall
        rw [if_neg hsmall]
        exact finite_of_ofRatio h

/-! Decimals of a number of digits -/

/-- The leading digit is where the leading power says. -/
theorem leadingPower_le (hn : 0 < num) (hd : 0 < den) : (10 : ℚ) ^ leadingPower num den ≤ num / den := by
  have hpos : (0 : ℚ) < den := by exact_mod_cast hd
  unfold leadingPower
  split
  · rename_i hge
    have hlen : 0 < (Decimal.digits (num / den)).length := List.length_pos_of_ne_nil (Decimal.digits_ne_nil _)
    have hle : 10 ^ ((Decimal.digits (num / den)).length - 1) * den ≤ num :=
      (Nat.le_div_iff_mul_le hd).mp (Decimal.pow_length_le (Nat.div_pos hge hd))
    rw [show ((Decimal.digits (num / den)).length : Int) - 1 = ((Decimal.digits (num / den)).length - 1 : Nat) by omega,
      zpow_natCast, le_div_iff₀ hpos]
    exact_mod_cast hle
  · have hlt : den - 1 < 10 ^ (Decimal.digits ((den - 1) / num)).length * num :=
      (Nat.div_lt_iff_lt_mul hn).mp (Decimal.lt_pow_length _)
    have hle : den ≤ 10 ^ (Decimal.digits ((den - 1) / num)).length * num := by omega
    have hten : (0 : ℚ) < 10 ^ (Decimal.digits ((den - 1) / num)).length := by positivity
    rw [zpow_neg, zpow_natCast, le_div_iff₀ hpos, inv_mul_le_iff₀ hten]
    exact_mod_cast hle

/-- The multiple of a power of ten that is nearest to a ratio. -/
def gridNearest (num den : Nat) (k : Int) : Nat :=
  if (gridBelow num den k).2 then (gridBelow num den k).1 + 1 else (gridBelow num den k).1

theorem nearest_of_div {n q r : Nat} (hd : 0 < den) (hq : q = n / den) (hr : r = n % den) :
    let near := if 2 * r ≥ den then q + 1 else q
    (near - 1 / 2 : ℚ) ≤ n / den ∧ (n / den : ℚ) ≤ near + 1 / 2 := by
  have hpos : (0 : ℚ) < den := by exact_mod_cast hd
  have hsplit : (n : ℚ) = den * q + r := by
    have := Nat.div_add_mod n den
    rw [← hq, ← hr] at this
    exact_mod_cast this.symm
  have hrest : (r : ℚ) ≤ den := by exact_mod_cast (hr ▸ Nat.mod_lt n hd).le
  have hzero : (0 : ℚ) ≤ r := by positivity
  simp only [le_div_iff₀ hpos, div_le_iff₀ hpos]
  split
  · rename_i h
    have h : (den : ℚ) ≤ 2 * r := by exact_mod_cast h
    push_cast
    constructor <;> nlinarith
  · rename_i h
    have h : (2 * r : ℚ) ≤ den := by exact_mod_cast (not_le.mp h).le
    constructor <;> nlinarith

/-- It is at most half a step away. -/
theorem gridNearest_spec (num : Nat) (hd : 0 < den) (k : Int) :
    ((gridNearest num den k - 1 / 2 : ℚ) * 10 ^ k ≤ num / den) ∧
    ((num / den : ℚ) ≤ (gridNearest num den k + 1 / 2) * 10 ^ k) := by
  have hten : (0 : ℚ) < 10 ^ k := by positivity
  rw [← le_div_iff₀ hten, ← div_le_iff₀ hten]
  cases k with
  | ofNat k =>
    have h := nearest_of_div (n := num) (show 0 < den * pow10 k from Nat.mul_pos hd (Nat.pow_pos (by omega))) rfl rfl
    rw [Nat.cast_mul, cast_pow10, ← div_div] at h
    simpa [gridNearest, gridBelow] using h
  | negSucc k =>
    have h := nearest_of_div (n := num * pow10 (k + 1)) hd rfl rfl
    rw [Nat.cast_mul, cast_pow10, mul_div_right_comm] at h
    simpa [gridNearest, gridBelow, zpow_negSucc] using h

/-- What is half a step of seventeen digits away from a double is nearer to it than to any other. -/
theorem isNear_of_close {v step : ℚ} (hx : IsPositive m e) (hstep : step * 10 ^ 16 ≤ m * 2 ^ e)
    (hlow : m * 2 ^ e - step / 2 ≤ v) (hhigh : v ≤ m * 2 ^ e + step / 2) : IsNear v m e := by
  have hpos : (0 : ℚ) < 2 ^ e := by positivity
  have hm : (m : ℚ) + 1 ≤ 2 ^ 53 := by exact_mod_cast hx.lt
  have hone : step < 2 ^ e := by nlinarith
  constructor
  case lower => linarith
  case upper => linarith
  case edge =>
    intro hedge _
    have hedge : (m : ℚ) = 2 ^ 52 := by exact_mod_cast hedge
    have hhalf : step < 2 ^ e / 2 := by nlinarith
    linarith

/-- A decimal and the next power of ten under another name are read the same. -/
theorem ofDecimal_ofGrid {count : Nat} (hm : 0 < m) (h : ofDecimal false d k = .finite false m e) :
    0 < (Scaled.ofGrid count d k).digits ∧
    ofDecimal s (Scaled.ofGrid count d k).digits (Scaled.ofGrid count d k).exponent = .finite s m e := by
  have hd : 0 < d := by
    rcases Nat.eq_zero_or_pos d with rfl | hd
    · cases h
      exact absurd hm (Nat.lt_irrefl 0)
    · exact hd
  unfold Scaled.ofGrid
  split
  · rename_i hten
    have hshift : ofDecimal s (1 * 10 ^ count) k = ofDecimal s 1 (k + count) := ofDecimal_shift Nat.one_pos count
    rw [Nat.one_mul, show 10 ^ count = d from hten.symm] at hshift
    exact ⟨Nat.one_pos, hshift ▸ finite_of_ofDecimal h⟩
  · exact ⟨hd, finite_of_ofDecimal h⟩

/-- The nearest multiple is tried first, and then the one on the other side. -/
theorem withDigits_eq (x : Binary64) (num den count : Nat) (hk : leadingPower num den - (count - 1) = k) :
    ∃ other, withDigits? x num den count =
      if ofDecimal false (gridNearest num den k) k = x then some (.ofGrid count (gridNearest num den k) k)
      else if ofDecimal false other k = x then some (.ofGrid count other k) else none := by
  unfold withDigits? gridNearest
  simp only [hk]
  cases (gridBelow num den k).2 with
  | true => exact ⟨(gridBelow num den k).1, by simp⟩
  | false => exact ⟨(gridBelow num den k).1 + 1, by simp⟩

theorem withDigits_reads {count : Nat} {x : Binary64} {decimal : Scaled} (h : withDigits? x num den count = some decimal) :
    ∃ d k, ofDecimal false d k = x ∧ decimal = .ofGrid count d k := by
  obtain ⟨other, he⟩ := withDigits_eq x num den count rfl
  rw [he] at h
  split at h
  · rename_i hreads
    exact ⟨_, _, hreads, (Option.some.inj h).symm⟩
  · split at h
    · rename_i hreads
      exact ⟨_, _, hreads, (Option.some.inj h).symm⟩
    · cases h

/-- With seventeen digits there is always a decimal that is read as the double. -/
theorem withDigits_seventeen (hx : IsPositive m e) (hn : 0 < num) (hd : 0 < den) (hv : (num / den : ℚ) = m * 2 ^ e) :
    (withDigits? (.finite false m e) num den 17).isSome = true := by
  let k : Int := leadingPower num den - 16
  have hten : (0 : ℚ) < 10 ^ k := by positivity
  have hlead : (10 : ℚ) ^ k * 10 ^ 16 ≤ m * 2 ^ e := by
    have h := leadingPower_le hn hd
    rw [show leadingPower num den = k + (16 : Nat) by simp [k], zpow_add₀ (by norm_num), zpow_natCast, hv] at h
    exact h
  obtain ⟨hlow, hhigh⟩ := gridNearest_spec num hd k
  rw [hv] at hlow hhigh
  have hpos : 0 < gridNearest num den k := by
    rcases Nat.eq_zero_or_pos (gridNearest num den k) with hz | hpos
    · rw [hz] at hhigh
      push_cast at hhigh
      nlinarith
    · exact hpos
  have hnear : IsNear (gridNearest num den k * 10 ^ k) m e :=
    isNear_of_close hx hlead (by linarith) (by linarith)
  have hreads : ofDecimal false (gridNearest num den k) k = .finite false m e := ofDecimal_of_isNear hpos hx hnear
  have hk : leadingPower num den - ((17 : Nat) - 1) = k := rfl
  obtain ⟨other, he⟩ := withDigits_eq (.finite false m e) num den 17 hk
  rw [he, if_pos hreads]
  rfl

theorem shortestFrom_reads (hx : IsPositive m e) (hn : 0 < num) (hd : 0 < den) (hv : (num / den : ℚ) = m * 2 ^ e)
    {fuel count : Nat} (hfuel : 0 < fuel) (hcount : fuel + count = 18) :
    0 < (shortestFrom (.finite false m e) num den fuel count).digits ∧
    ofDecimal s (shortestFrom (.finite false m e) num den fuel count).digits
      (shortestFrom (.finite false m e) num den fuel count).exponent = .finite s m e := by
  induction fuel generalizing count with
  | zero => exact absurd hfuel (Nat.lt_irrefl 0)
  | succ fuel ih =>
    unfold shortestFrom
    cases hw : withDigits? (.finite false m e) num den count with
    | some decimal =>
      obtain ⟨d, k, hreads, rfl⟩ := withDigits_reads hw
      exact ofDecimal_ofGrid hx.pos hreads
    | none =>
      refine ih ?_ (by omega)
      by_contra hz
      obtain rfl : count = 17 := by omega
      have := withDigits_seventeen hx hn hd hv
      rw [hw] at this
      cases this

/-- The shortest decimal of a double is read as the double. -/
theorem ofDecimal_shortest (hx : IsPositive m e) : 0 < (shortest m e).digits ∧
    ofDecimal s (shortest m e).digits (shortest m e).exponent = .finite s m e := by
  unfold shortest
  cases e with
  | ofNat k =>
    refine shortestFrom_reads hx (Nat.mul_pos hx.pos (Nat.two_pow_pos k)) Nat.one_pos ?_ (by omega) rfl
    push_cast
    rw [div_one, Int.ofNat_eq_natCast, zpow_natCast]
  | negSucc k =>
    refine shortestFrom_reads hx hx.pos (Nat.two_pow_pos (k + 1)) ?_ (by omega) rfl
    push_cast
    rw [zpow_negSucc, div_eq_mul_inv]

end Binary64
end ProxyWatch
