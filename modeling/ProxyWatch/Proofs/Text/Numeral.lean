import Mathlib.Algebra.Group.Nat.Defs
import Mathlib.Data.List.Basic
import Mathlib.Data.List.TakeDrop
import ProxyWatch.Text.Decimal
import ProxyWatch.Text.Hex

/-! Numerals are read as the numbers that they were written for. -/
namespace ProxyWatch

/-! Decimal numerals -/

namespace Decimal

variable {n d : Nat} {ds rest : List Char}

theorem digitChar_spec : ∀ d < 10, (digitChar d).isDigit = true ∧ digitValue (digitChar d) = d := by decide

/-- A digit stands for a number, and a longer numeral is one with a digit behind it. -/
theorem digits_induction {P : Nat → List Char → Prop} (one : ∀ d, d < 10 → P d [digitChar d])
    (more : ∀ n d, 0 < n → d < 10 → P n (digits n) → P (n * 10 + d) (digits n ++ [digitChar d]))
    (n : Nat) : P n (digits n) := by
  fun_induction digits n with
  | case1 n h => exact one n h
  | case2 n h ih =>
    have := more (n / 10) (n % 10) (by omega) (by omega) ih
    rwa [show n / 10 * 10 + n % 10 = n by omega] at this

theorem isDigit_of_mem_digits (n : Nat) : ∀ c ∈ digits n, c.isDigit = true := by
  refine digits_induction (P := fun _ cs => ∀ c ∈ cs, c.isDigit = true) ?_ ?_ n
  · intro d h c hc
    rw [List.mem_singleton.mp hc]
    exact (digitChar_spec d h).1
  · intro n d _ h ih c hc
    rcases List.mem_append.mp hc with hc | hc
    · exact ih c hc
    · rw [List.mem_singleton.mp hc]
      exact (digitChar_spec d h).1

theorem value_concat {c : Char} : value (ds ++ [c]) = value ds * 10 + digitValue c := by
  simp [value]

@[simp] theorem value_digits (n : Nat) : value (digits n) = n := by
  refine digits_induction (P := fun n cs => value cs = n) ?_ ?_ n
  · intro d h
    simp [value, (digitChar_spec d h).2]
  · intro n d _ h ih
    rw [value_concat, ih, (digitChar_spec d h).2]

theorem digits_ne_nil (n : Nat) : digits n ≠ [] := by
  refine digits_induction (P := fun _ cs => cs ≠ []) ?_ ?_ n <;> simp

/-- Only the numeral of zero begins with a zero. -/
theorem head?_digits (n : Nat) : (digits n).head? = some '0' → n = 0 := by
  refine digits_induction (P := fun n cs => cs.head? = some '0' → n = 0) ?_ ?_ n
  · intro d h hd
    have hz : digitChar d = '0' := by simpa using hd
    have := (digitChar_spec d h).2
    rw [hz] at this
    exact this.symm
  · intro n d hn _ ih hd
    rw [List.head?_append_of_ne_nil _ (digits_ne_nil n)] at hd
    have := ih hd
    omega

theorem length_digits_le {w : Nat} (hw : 0 < w) (h : n < 10 ^ w) : (digits n).length ≤ w := by
  induction w generalizing n with
  | zero => omega
  | succ w ih =>
    rw [digits]
    split
    · simp
    · rename_i hn
      rcases Nat.eq_zero_or_pos w with rfl | hw
      · omega
      · have := ih hw (n := n / 10) (by rw [Nat.pow_succ] at h; omega)
        simp only [List.length_append, List.length_singleton]
        omega

/-- A run of digits ends where something else comes. -/
theorem run_append (hd : ∀ c ∈ ds, c.isDigit = true) (hr : ∀ c ∈ rest.head?, c.isDigit = false) :
    run (ds ++ rest) = (ds, rest) := by
  rw [run, List.span_eq_takeWhile_dropWhile, List.takeWhile_append_of_pos hd, List.dropWhile_append_of_pos hd]
  cases rest with
  | nil => simp
  | cons c rest =>
    have := hr c rfl
    simp [this]

/-! Numerals with a fixed width -/

variable {width : Nat}

theorem isDigit_of_mem_padded (width n : Nat) : ∀ c ∈ padded width n, c.isDigit = true := by
  intro c hc
  rcases List.mem_append.mp hc with hc | hc
  · rw [(List.mem_replicate.mp hc).2]
    rfl
  · exact isDigit_of_mem_digits n c hc

@[simp] theorem value_padded : value (padded width n) = n := by
  have hz : ∀ k, value (List.replicate k '0' ++ digits n) = n := by
    intro k
    induction k with
    | zero => simp
    | succ k ih => simpa [value, List.replicate_succ, digitValue] using ih
  exact hz _

theorem length_padded (hw : 0 < width) (h : n < 10 ^ width) : (padded width n).length = width := by
  have := length_digits_le hw h
  simp only [padded, List.length_append, List.length_replicate]
  omega

theorem padded_ne_nil (width n : Nat) : padded width n ≠ [] := by
  simp [padded, digits_ne_nil]

end Decimal

/-! Hexadecimal numerals -/

theorem Hex.value?_lowerDigit : ∀ d < 16, Hex.value? (Hex.lowerDigit d) = some d := by decide

end ProxyWatch
