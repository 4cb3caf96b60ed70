import ProxyWatch.Proofs.Text.Numeral
import ProxyWatch.Timestamp.Reader

/-! A point in time is read as it was written, to the nanosecond. What is read is a point in time. -/
namespace ProxyWatch.Timestamp

open Blank

section
variable {ds rest : List Char} {c : Char} {most n : Nat}

theorem isBlank_of_isDigit (h : c.isDigit = true) : isBlank c = false := by
  simp only [Char.isDigit, Bool.and_eq_true, decide_eq_true_eq] at h
  have hlow : 48 ≤ c.toNat := UInt32.le_iff_toNat_le.mp h.1
  have hhigh : c.toNat ≤ 57 := UInt32.le_iff_toNat_le.mp h.2
  simp only [isBlank, Bool.or_eq_false_iff, Bool.and_eq_false_iff, decide_eq_false_iff_not, beq_eq_false_iff_ne]
  omega

theorem trimStart_of_head (h : ∀ c ∈ rest.head?, isBlank c = false) : trimStart rest = rest := by
  cases rest with
  | nil => rfl
  | cons c r => simp [trimStart, h c rfl]

/-- The digits that are read of a run that is as long as allowed, or ends where something else comes. -/
theorem takeWhile_take (hd : ∀ c ∈ ds, c.isDigit = true) (hl : ds.length ≤ most)
    (hr : ds.length = most ∨ ∀ c ∈ rest.head?, c.isDigit = false) :
    ((ds ++ rest).take most).takeWhile Char.isDigit = ds := by
  have htail : (rest.take (most - ds.length)).takeWhile Char.isDigit = [] := by
    rcases hr with hr | hr
    · simp [hr]
    · cases rest with
      | nil => simp
      | cons c r =>
        have hc := hr c rfl
        cases most - ds.length <;> simp [hc]
  rw [List.take_append, List.take_of_length_le hl, List.takeWhile_append_of_pos hd, htail, List.append_nil]

theorem number?_append (hd : ∀ c ∈ ds, c.isDigit = true) (hne : ds ≠ []) (hl : ds.length ≤ most)
    (hr : ds.length = most ∨ ∀ c ∈ rest.head?, c.isDigit = false) :
    number? most (ds ++ rest) = some (Decimal.value ds, rest) := by
  simp only [number?, takeWhile_take hd hl hr]
  simp [hne]

theorem exists_padded (w n : Nat) : ∃ c cs, Decimal.padded w n = c :: cs ∧ c.isDigit = true := by
  obtain ⟨c, cs, hcs⟩ := List.exists_cons_of_ne_nil (Decimal.padded_ne_nil w n)
  exact ⟨c, cs, hcs, Decimal.isDigit_of_mem_padded w n c (by simp [hcs])⟩

theorem trimStart_padded (w : Nat) : trimStart (Decimal.padded w n ++ rest) = Decimal.padded w n ++ rest := by
  obtain ⟨c, cs, hcs, hc⟩ := exists_padded w n
  rw [hcs]
  exact trimStart_of_head (by rintro _ ⟨⟩; exact isBlank_of_isDigit hc)

theorem number?_padded (w : Nat) (hw : 0 < w) (hn : n < 10 ^ w) (rest : List Char) :
    number? w (Decimal.padded w n ++ rest) = some (n, rest) := by
  have hl := Decimal.length_padded hw hn
  rw [number?_append (Decimal.isDigit_of_mem_padded w n) (Decimal.padded_ne_nil w n) (Nat.le_of_eq hl) (.inl hl),
    Decimal.value_padded]

theorem field?_padded (hn : n < 100) (rest : List Char) : field? (Decimal.padded 2 n ++ rest) = some (n, rest) := by
  rw [field?, trimStart_padded, number?_padded 2 (by decide) hn]

theorem mark?_cons (h : isBlank c = false) (rest : List Char) : mark? c (c :: rest) = some rest := by
  simp [mark?, trimStart, h]

/-- A year behind a sign ends where something else comes. -/
theorem number?_signed (h : ∀ c ∈ rest.head?, c.isDigit = false) :
    number? (Decimal.padded 4 n ++ rest).length (Decimal.padded 4 n ++ rest) = some (n, rest) := by
  rw [number?_append (Decimal.isDigit_of_mem_padded 4 n) (Decimal.padded_ne_nil 4 n) (by simp) (.inr h),
    Decimal.value_padded]

theorem year?_yearText (y : Int) (h : ∀ c ∈ rest.head?, c.isDigit = false) :
    year? (yearText y ++ rest) = some (y, rest) := by
  unfold yearText
  by_cases hy : 0 ≤ y ∧ y ≤ 9999
  · obtain ⟨c, cs, hcs, hc⟩ := exists_padded 4 y.natAbs
    have hnum := number?_padded (n := y.natAbs) 4 (by decide) (by omega) rest
    have habs : (y.natAbs : Int) = y := by omega
    rw [if_pos hy, year?, trimStart_padded]
    rw [hcs] at hnum ⊢
    split
    · simp_all
    · simp_all
    · simp only [hnum, Option.map_some, habs]
  · rw [if_neg hy]
    by_cases hneg : y < 0
    · have habs : -(y.natAbs : Int) = y := by omega
      have hsign : trimStart ('-' :: (Decimal.padded 4 y.natAbs ++ rest)) = '-' :: (Decimal.padded 4 y.natAbs ++ rest) := rfl
      simp only [hneg, if_true, List.cons_append, year?, hsign, number?_signed h, Option.map_some, habs]
    · have habs : (y.natAbs : Int) = y := by omega
      have hsign : trimStart ('+' :: (Decimal.padded 4 y.natAbs ++ rest)) = '+' :: (Decimal.padded 4 y.natAbs ++ rest) := rfl
      simp only [hneg, if_false, List.cons_append, year?, hsign, number?_signed h, Option.map_some, habs]

theorem fraction?_padded {w : Nat} (hw : 0 < w) (hw9 : w ≤ 9) (hn : n < 10 ^ w) :
    fraction? ('.' :: (Decimal.padded w n ++ 'Z' :: rest)) = some (n * pow10 (9 - w), 'Z' :: rest) := by
  have hd := Decimal.isDigit_of_mem_padded w n
  have hl : (Decimal.padded w n).length ≤ 9 := Nat.le_trans (Nat.le_of_eq (Decimal.length_padded hw hn)) hw9
  have hz : ∀ c ∈ ('Z' :: rest).head?, c.isDigit = false := by rintro _ ⟨⟩; decide
  have hstop : ('Z' :: rest).dropWhile Char.isDigit = 'Z' :: rest := rfl
  simp only [fraction?, number?_append hd (Decimal.padded_ne_nil w n) hl (.inr hz), takeWhile_take hd hl (.inr hz),
    Option.map_some, Decimal.value_padded, Decimal.length_padded hw hn, hstop]

theorem fraction?_fractionText (hn : n < 1000000000) :
    fraction? (fractionText n ++ 'Z' :: rest) = some (n, 'Z' :: rest) := by
  unfold fractionText
  split
  · rename_i hz
    rw [hz]
    rfl
  · split
    · rw [List.cons_append, fraction?_padded (by decide) (by decide) (by omega)]
      have hpow : n / 1000000 * pow10 (9 - 3) = n := by
        rw [show pow10 (9 - 3) = 1000000 from rfl]
        omega
      rw [hpow]
    · split
      · rw [List.cons_append, fraction?_padded (by decide) (by decide) (by omega)]
        have hpow : n / 1000 * pow10 (9 - 6) = n := by
          rw [show pow10 (9 - 6) = 1000 from rfl]
          omega
        rw [hpow]
      · rw [List.cons_append, fraction?_padded (by decide) (by decide) hn]
        simp

end

theorem minusMinutes_zero {t : Timestamp} (h : t.IsValid) : t.minusMinutes 0 = some t := by
  obtain ⟨-, -, -, -, -, -, hh, hm, -⟩ := id h
  have hday : ((t.hour * 60 + t.minute - 0 : Int) % 1440).toNat = t.hour * 60 + t.minute := by omega
  have hlow : ¬ (t.hour * 60 + t.minute - 0 : Int) < 0 := by omega
  have hhigh : ¬ (t.hour * 60 + t.minute - 0 : Int) ≥ 1440 := by omega
  have hhour : (t.hour * 60 + t.minute) / 60 = t.hour := by omega
  have hminute : (t.hour * 60 + t.minute) % 60 = t.minute := by omega
  simp only [minusMinutes, hday, hlow, hhigh, hhour, hminute, if_false]
  exact if_pos h

/-- A point in time is read as it was written. -/
theorem parse?_chars {t : Timestamp} (h : t.IsValid) : parse? t.chars = some t := by
  obtain ⟨-, -, -, hmonth, -, hday, hhour, hminute, hsecond, hnanos⟩ := id h
  have hd : t.day < 100 := by
    have : daysInMonth t.year t.month ≤ 31 := by
      unfold daysInMonth
      split
      · split <;> decide
      · split <;> decide
    omega
  have hzone : zone? (trimStart ['Z']) = some (0, []) := rfl
  have hdash := mark?_cons (c := '-') rfl
  have hcolon := mark?_cons (c := ':') rfl
  have hfield := fun n (hn : n < 100) => field?_padded hn
  unfold parse? chars
  simp only [List.append_assoc, List.cons_append]
  rw [year?_yearText t.year (by rintro _ ⟨⟩; rfl)]
  -- one field after the other: a `simp` over the nested binds would double with each of them
  refine Option.bind_eq_some_iff.mpr ⟨_, rfl, ?_⟩
  refine Option.bind_eq_some_iff.mpr ⟨_, hdash _, ?_⟩
  refine Option.bind_eq_some_iff.mpr ⟨_, hfield t.month (by omega) _, ?_⟩
  refine Option.bind_eq_some_iff.mpr ⟨_, hdash _, ?_⟩
  refine Option.bind_eq_some_iff.mpr ⟨_, hfield t.day hd _, ?_⟩
  refine Option.bind_eq_some_iff.mpr ⟨_, hfield t.hour (by omega) _, ?_⟩
  refine Option.bind_eq_some_iff.mpr ⟨_, hcolon _, ?_⟩
  refine Option.bind_eq_some_iff.mpr ⟨_, hfield t.minute (by omega) _, ?_⟩
  refine Option.bind_eq_some_iff.mpr ⟨_, hcolon _, ?_⟩
  refine Option.bind_eq_some_iff.mpr ⟨_, hfield t.second (by omega) _, ?_⟩
  refine Option.bind_eq_some_iff.mpr ⟨_, fraction?_fractionText hnanos, ?_⟩
  refine Option.bind_eq_some_iff.mpr ⟨_, hzone, ?_⟩
  simp [trimStart, h, minusMinutes_zero h]

theorem isValid_of_minusMinutes {t t' : Timestamp} {minutes : Int} (h : t.minusMinutes minutes = some t') :
    t'.IsValid := by
  obtain ⟨hv, he⟩ := Option.ite_none_right_eq_some.mp h
  exact Option.some.inj he ▸ hv

/-- What is read is a point in time. -/
theorem isValid_of_parse? {cs : List Char} {t : Timestamp} (h : parse? cs = some t) : t.IsValid := by
  iterate 4 obtain ⟨_, -, h⟩ := Option.bind_eq_some_iff.mp h
  obtain ⟨⟨day, cs⟩, -, h⟩ := Option.bind_eq_some_iff.mp h
  cases cs with
  | nil => cases h
  | cons c cs =>
    simp only at h
    split at h
    · iterate 8 obtain ⟨_, -, h⟩ := Option.bind_eq_some_iff.mp h
      exact isValid_of_minusMinutes (Option.ite_none_right_eq_some.mp h).2
    · cases h

end ProxyWatch.Timestamp
