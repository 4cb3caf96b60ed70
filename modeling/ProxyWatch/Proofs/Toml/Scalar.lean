import ProxyWatch.Proofs.Number.Shortest
import ProxyWatch.Proofs.Text.Run
import ProxyWatch.Toml.Scalar

/-! Numbers and truth values of TOML documents are read as they were written. -/
namespace ProxyWatch

/-! Digits with zeros around them -/

namespace Decimal

variable {ds : List Char}

theorem value_append_zeros (ds : List Char) (k : Nat) : value (ds ++ List.replicate k '0') = value ds * 10 ^ k := by
  induction k with
  | zero => simp
  | succ k ih =>
    rw [List.replicate_succ', ← List.append_assoc, value_concat, ih, Nat.pow_succ, Nat.mul_assoc]
    rfl

theorem value_zeros_append (k : Nat) (ds : List Char) : value (List.replicate k '0' ++ ds) = value ds := by
  induction k with
  | zero => rfl
  | succ k ih => exact ih

theorem isDigit_of_mem_zeros {k : Nat} : ∀ c ∈ List.replicate k '0', c.isDigit = true := by
  intro c hc
  rw [(List.mem_replicate.mp hc).2]
  rfl

end Decimal

namespace Toml.Scalar

variable {whole fraction ds cs atom rest : List Char} {negative : Bool}

/-! Digits and signs -/

theorem ungroup_digits (hne : ds ≠ []) (hd : ∀ c ∈ ds, c.isDigit = true) : ungroup Char.isDigit ds = some ds := by
  induction ds with
  | nil => exact absurd rfl hne
  | cons c ds ih =>
    have hc : c.isDigit = true := hd c (by simp)
    cases ds with
    | nil => simp [ungroup, hc]
    | cons d ds =>
      have hmore : ∀ x ∈ d :: ds, x.isDigit = true := fun x hx => hd x (List.mem_cons_of_mem c hx)
      have hbar : d ≠ '_' := by
        rintro rfl
        exact absurd (hmore '_' (by simp)) (by decide)
      simp [ungroup, hc, hbar, ih (by simp) hmore]

/-- Digits have nothing but single underscores between them. -/
theorem ungroup_eq_none {p : Char → Bool} {c : Char} (hc : c ∈ cs) (hp : p c = false) (hbar : c ≠ '_') :
    ungroup p cs = none := by
  have hmore : ∀ {d : Char} {r : List Char}, c ∈ d :: r → p d = true → c ∈ r := by
    intro d r hmem hd
    rcases List.mem_cons.mp hmem with rfl | hmem
    · simp [hp] at hd
    · exact hmem
  fun_induction ungroup p cs with
  | case1 => rfl
  | case2 d hd => exact absurd (hmore hc hd) (by simp)
  | case3 d hd => rfl
  | case4 d r hd ih =>
    rcases List.mem_cons.mp (hmore hc hd) with rfl | hmem
    · exact absurd rfl hbar
    · rw [ih hmem]
      rfl
  | case5 d r hd => rfl
  | case6 d r _ _ hd ih =>
    rw [ih (hmore hc hd)]
    rfl
  | case7 d r _ _ hd => rfl

theorem decimal?_digits (hne : ds ≠ []) (hd : ∀ c ∈ ds, c.isDigit = true) (lead : ds.head? = some '0' → ds = ['0']) :
    decimal? ds = some ds := by
  unfold decimal?
  rw [ungroup_digits hne hd]
  split
  · rename_i heq
    cases heq
    exact absurd (lead rfl) (by simp)
  · rfl

/-- A minus in front of a negative number. -/
def sign (negative : Bool) : List Char := if negative then ['-'] else []

theorem splitSign_sign {c : Char} (hc : c.isDigit = true) (cs : List Char) :
    splitSign (sign negative ++ c :: cs) = (negative, c :: cs) := by
  have hm : c ≠ '-' := by rintro rfl; exact absurd hc (by decide)
  have hp : c ≠ '+' := by rintro rfl; exact absurd hc (by decide)
  cases negative with
  | true => rfl
  | false => simp [sign, splitSign, hm, hp]

/-- The text has no characters but those of decimal numerals. -/
def IsNumeral (cs : List Char) : Prop := ∀ c ∈ cs, c.isDigit = true ∨ c = '-' ∨ c = '.'

theorem IsNumeral.of_digits (hd : ∀ c ∈ ds, c.isDigit = true) : IsNumeral ds := fun c hc => .inl (hd c hc)

theorem IsNumeral.append (h : IsNumeral cs) (h' : IsNumeral ds) : IsNumeral (cs ++ ds) :=
  List.forall_mem_append.mpr ⟨h, h'⟩

theorem IsNumeral.signed (h : IsNumeral cs) : IsNumeral (sign negative ++ cs) := by
  cases negative with
  | true => exact List.forall_mem_cons.mpr ⟨.inr (.inl rfl), h⟩
  | false => exact h

theorem IsNumeral.not_mem (h : IsNumeral cs) {c : Char} (hd : c.isDigit = false) (hm : c ≠ '-') (hp : c ≠ '.') :
    c ∉ cs := by
  intro hc
  rcases h c hc with h | h | h
  · exact absurd h (by simp [hd])
  · exact hm h
  · exact hp h

theorem IsNumeral.isAtomChar (h : IsNumeral cs) : ∀ c ∈ cs, isAtomChar c = true := by
  intro c hc
  rcases h c hc with h | rfl | rfl
  · simp [Scalar.isAtomChar, Char.isAlphanum, h]
  · rfl
  · rfl

/-! Integers -/

/-- A decimal numeral is not taken for one in another base. -/
theorem integer?_numeral (h : IsNumeral cs) : integer? cs =
    (decimal? (splitSign cs).2).map fun ds =>
      let n : Int := Decimal.value ds
      if (splitSign cs).1 then -n else n := by
  have hx : 'x' ∉ cs := h.not_mem rfl (by decide) (by decide)
  have ho : 'o' ∉ cs := h.not_mem rfl (by decide) (by decide)
  have hb : 'b' ∉ cs := h.not_mem rfl (by decide) (by decide)
  unfold integer?
  split
  · simp at hx
  · simp at ho
  · simp at hb
  · rfl

theorem IsNumeral.no_word (h : IsNumeral cs) : cs ≠ "true".toList ∧ cs ≠ "false".toList := by
  constructor
  · rintro rfl
    exact h.not_mem (c := 't') rfl (by decide) (by decide) (by decide)
  · rintro rfl
    exact h.not_mem (c := 'f') rfl (by decide) (by decide) (by decide)

theorem ofAtom?_of_integer {i : Int} (h : IsNumeral cs) (hi : integer? cs = some i) (hr : inRange i = true) :
    ofAtom? cs = some (.int i) := by
  obtain ⟨ht, hf⟩ := h.no_word
  simp only [ofAtom?, if_neg ht, if_neg hf, hi, if_pos hr]

theorem ofAtom?_of_float {x : Binary64} (h : IsNumeral cs) (hi : integer? cs = none) (hx : float? cs = some x) :
    ofAtom? cs = some (.float x) := by
  obtain ⟨ht, hf⟩ := h.no_word
  simp only [ofAtom?, if_neg ht, if_neg hf, hi, hx]

theorem intText_toList (i : Int) : (Decimal.intText i).toList = sign (i < 0) ++ Decimal.digits i.natAbs := by
  unfold Decimal.intText Decimal.text sign
  by_cases hi : i < 0 <;> simp [hi]

theorem isNumeral_intText (i : Int) : IsNumeral (Decimal.intText i).toList := by
  rw [intText_toList]
  exact (IsNumeral.of_digits (Decimal.isDigit_of_mem_digits _)).signed

theorem ofAtom?_intText {i : Int} (h : inRange i = true) : ofAtom? (Decimal.intText i).toList = some (.int i) := by
  have hdigits := Decimal.isDigit_of_mem_digits i.natAbs
  have hlead : (Decimal.digits i.natAbs).head? = some '0' → Decimal.digits i.natAbs = ['0'] := by
    intro hz
    rw [Decimal.head?_digits _ hz, Decimal.digits]
    rfl
  have hdecimal := decimal?_digits (Decimal.digits_ne_nil _) hdigits hlead
  have hsplit : splitSign (sign (i < 0) ++ Decimal.digits i.natAbs) = (decide (i < 0), Decimal.digits i.natAbs) := by
    obtain ⟨c, cs, hcs⟩ := List.exists_cons_of_ne_nil (Decimal.digits_ne_nil i.natAbs)
    rw [hcs]
    exact splitSign_sign (hdigits c (by simp [hcs])) cs
  have hint : integer? (Decimal.intText i).toList = some i := by
    rw [integer?_numeral (isNumeral_intText i), intText_toList, hsplit]
    simp only [hdecimal, Option.map_some, Decimal.value_digits, decide_eq_true_eq]
    congr 1
    split <;> omega
  exact ofAtom?_of_integer (isNumeral_intText i) hint h

/-! Doubles -/

/-- Digits around a point, without zeros that could be left out in front. -/
structure Pointed (whole fraction : List Char) : Prop where
  whole_ne : whole ≠ []
  fraction_ne : fraction ≠ []
  whole_digits : ∀ c ∈ whole, c.isDigit = true
  fraction_digits : ∀ c ∈ fraction, c.isDigit = true
  /-- Nothing but a single zero begins with one. -/
  lead : whole.head? = some '0' → whole = ['0']

namespace Pointed

variable (h : Pointed whole fraction)
include h

theorem isNumeral (negative : Bool) : IsNumeral (sign negative ++ (whole ++ '.' :: fraction)) := by
  apply IsNumeral.signed
  apply (IsNumeral.of_digits h.whole_digits).append
  exact List.forall_mem_cons.mpr ⟨.inr (.inr rfl), IsNumeral.of_digits h.fraction_digits⟩

theorem splitSign_eq (negative : Bool) :
    splitSign (sign negative ++ (whole ++ '.' :: fraction)) = (negative, whole ++ '.' :: fraction) := by
  obtain ⟨c, cs, rfl⟩ := List.exists_cons_of_ne_nil h.whole_ne
  exact splitSign_sign (h.whole_digits c (by simp)) _

theorem integer?_eq (negative : Bool) : integer? (sign negative ++ (whole ++ '.' :: fraction)) = none := by
  have hpoint : ungroup Char.isDigit (whole ++ '.' :: fraction) = none :=
    ungroup_eq_none (c := '.') (by simp) rfl (by decide)
  rw [integer?_numeral (h.isNumeral negative), h.splitSign_eq]
  simp only [decimal?, hpoint, Option.map_none]

theorem decimalFloat?_eq (negative : Bool) : decimalFloat? (sign negative ++ (whole ++ '.' :: fraction)) =
    let x := Binary64.ofDecimal negative (Decimal.value (whole ++ fraction)) (0 - fraction.length)
    if x.isFinite then some x else none := by
  have hnumeral : IsNumeral (whole ++ '.' :: fraction) := h.isNumeral false
  have hmark : ∀ c ∈ whole ++ '.' :: fraction, (!(c == 'e' || c == 'E')) = true := by
    intro c hc
    have he : c ≠ 'e' := fun he => hnumeral.not_mem (c := 'e') rfl (by decide) (by decide) (he ▸ hc)
    have hE : c ≠ 'E' := fun hE => hnumeral.not_mem (c := 'E') rfl (by decide) (by decide) (hE ▸ hc)
    simp [he, hE]
  have hno : ∀ {ds : List Char}, (∀ c ∈ ds, c.isDigit = true) → '.' ∉ ds := fun hd hp =>
    absurd (hd '.' hp) (by decide)
  have hsplit : (whole ++ '.' :: fraction).splitOn '.' = [whole, fraction] := by
    have hjoin : (['.'].intercalate [whole, fraction]).splitOn '.' = [whole, fraction] :=
      List.splitOn_intercalate '.' (by simp [hno h.whole_digits, hno h.fraction_digits]) (by simp)
    simpa using hjoin
  have htake : (whole ++ '.' :: fraction).takeWhile (fun c => !(c == 'e' || c == 'E')) = whole ++ '.' :: fraction :=
    List.takeWhile_eq_self_iff.mpr hmark
  have hdrop : (whole ++ '.' :: fraction).dropWhile (fun c => !(c == 'e' || c == 'E')) = [] :=
    List.dropWhile_eq_nil_iff.mpr hmark
  unfold decimalFloat?
  simp only [h.splitSign_eq, htake, hdrop, hsplit, decimal?_digits h.whole_ne h.whole_digits h.lead,
    ungroup_digits h.fraction_ne h.fraction_digits]
  simp

/-- A decimal with a point is read as the double that is nearest to it. -/
theorem ofAtom?_eq {x : Binary64} (hx : x.isFinite = true)
    (hv : Binary64.ofDecimal negative (Decimal.value (whole ++ fraction)) (0 - fraction.length) = x) :
    ofAtom? (sign negative ++ (whole ++ '.' :: fraction)) = some (.float x) := by
  have hword : ∀ w : List Char, '.' ∉ w → whole ++ '.' :: fraction ≠ w := by
    rintro _ hw rfl
    simp at hw
  have hfloat : float? (sign negative ++ (whole ++ '.' :: fraction)) = some x := by
    unfold float?
    rw [h.splitSign_eq]
    simp only
    rw [if_neg (hword _ (by decide)), if_neg (hword _ (by decide)), h.decimalFloat?_eq, hv]
    exact if_pos hx
  exact ofAtom?_of_float (h.isNumeral negative) (h.integer?_eq negative) hfloat

end Pointed

end Toml.Scalar

namespace Binary64

open Toml.Scalar

theorem Scaled.positional_pointed {s : Scaled} (h : 0 < s.digits) :
    ∃ whole fraction, s.positional = whole ++ '.' :: fraction ∧ Pointed whole fraction ∧
    ∃ j : Nat, Decimal.value (whole ++ fraction) = s.digits * 10 ^ j ∧ s.exponent = j - fraction.length := by
  have hdigits := Decimal.isDigit_of_mem_digits s.digits
  have hne := Decimal.digits_ne_nil s.digits
  have hlead : (Decimal.digits s.digits).head? ≠ some '0' := fun hz => h.ne' (Decimal.head?_digits _ hz)
  have hvalue := Decimal.value_digits s.digits
  unfold Scaled.positional
  generalize Decimal.digits s.digits = ds at hdigits hne hlead hvalue
  cases s.exponent with
  | ofNat k =>
    refine ⟨ds ++ List.replicate k '0', ['0'], by simp, ?_, k + 1, ?_, by simp⟩
    · constructor
      case whole_ne => simp [hne]
      case fraction_ne => simp
      case whole_digits => exact List.forall_mem_append.mpr ⟨hdigits, Decimal.isDigit_of_mem_zeros⟩
      case fraction_digits => simp
      case lead =>
        rw [List.head?_append_of_ne_nil _ hne]
        exact fun hz => absurd hz hlead
    · have hzeros : List.replicate k '0' ++ ['0'] = List.replicate (k + 1) '0' := List.replicate_succ'.symm
      rw [List.append_assoc, hzeros, Decimal.value_append_zeros, hvalue]
  | negSucc k =>
    simp only
    split
    · rename_i hlong
      refine ⟨ds.take (ds.length - (k + 1)), ds.drop (ds.length - (k + 1)), rfl, ?_, 0, ?_, ?_⟩
      · constructor
        case whole_ne => simp [hne]; omega
        case fraction_ne => simp; omega
        case whole_digits => exact fun c hc => hdigits c (List.mem_of_mem_take hc)
        case fraction_digits => exact fun c hc => hdigits c (List.mem_of_mem_drop hc)
        case lead =>
          rw [List.head?_take, if_neg (by omega)]
          exact fun hz => absurd hz hlead
      · rw [List.take_append_drop, hvalue, Nat.pow_zero, Nat.mul_one]
      · rw [List.length_drop]
        omega
    · rename_i hshort
      refine ⟨['0'], List.replicate (k + 1 - ds.length) '0' ++ ds, rfl, ?_, 0, ?_, ?_⟩
      · constructor
        case whole_ne => simp
        case fraction_ne => simp [hne]
        case whole_digits => simp
        case fraction_digits => exact List.forall_mem_append.mpr ⟨Decimal.isDigit_of_mem_zeros, hdigits⟩
        case lead => exact fun _ => rfl
      · have hzeros := Decimal.value_zeros_append (k + 1 - ds.length + 1) ds
        rw [Nat.pow_zero, Nat.mul_one, ← hvalue, ← hzeros]
        rfl
      · rw [List.length_append, List.length_replicate]
        omega

/-- The parts are those of a double. There is one zero of each sign, with the least exponent. -/
def IsCanonical : Binary64 → Prop
  | finite _ m e => m = 0 ∧ e = minExponent ∨ IsPositive m e
  | _ => True

/-- The text of a finite double has digits around a point, and they are worth the double. -/
theorem text_pointed {s : Bool} {m : Nat} {e : Int} (h : (finite s m e).IsCanonical) :
    ∃ whole fraction, (finite s m e).text = sign s ++ (whole ++ '.' :: fraction) ∧ Pointed whole fraction ∧
    ofDecimal s (Decimal.value (whole ++ fraction)) (0 - fraction.length) = .finite s m e := by
  rcases h with ⟨rfl, rfl⟩ | hx
  · exact ⟨['0'], ['0'], rfl, ⟨by simp, by simp, by simp, by simp, fun _ => rfl⟩, rfl⟩
  · obtain ⟨hpos, hreads⟩ := ofDecimal_shortest (s := s) hx
    obtain ⟨whole, fraction, htext, hp, j, hvalue, hexponent⟩ := Scaled.positional_pointed hpos
    refine ⟨whole, fraction, ?_, hp, ?_⟩
    · simp only [text, if_neg hx.pos.ne', htext, sign]
    · rw [hvalue, ofDecimal_shift hpos, ← hreads, hexponent]
      congr 1
      omega

end Binary64

namespace Toml.Scalar

variable {atom rest : List Char} {x : Binary64}

theorem ofAtom?_text (h : x.IsCanonical) : ofAtom? x.text = some (.float x) := by
  cases x with
  | nan => rfl
  | infinite s => cases s <;> rfl
  | finite s m e =>
    obtain ⟨whole, fraction, htext, hp, hvalue⟩ := Binary64.text_pointed h
    rw [htext]
    exact hp.ofAtom?_eq rfl hvalue

theorem isAtomChar_of_mem_text (h : x.IsCanonical) : ∀ c ∈ x.text, isAtomChar c = true := by
  cases x with
  | nan => decide
  | infinite s => cases s <;> decide
  | finite s m e =>
    obtain ⟨whole, fraction, htext, hp, -⟩ := Binary64.text_pointed h
    rw [htext]
    exact (hp.isNumeral s).isAtomChar

/-- An unquoted value ends where something else comes. -/
theorem read?_append (ha : ∀ c ∈ atom, isAtomChar c = true)
    (hr : ∀ c ∈ rest.head?, isAtomChar c = false ∧ c ≠ ' ') :
    read? (atom ++ rest) = (ofAtom? atom).map fun v => (v, rest) := by
  have hspan : (atom ++ rest).span isAtomChar = (atom, rest) := by
    rw [span_append_of_head atom fun c hc => (hr c hc).1, List.takeWhile_eq_self_iff.mpr ha,
      List.dropWhile_eq_nil_iff.mpr ha, List.nil_append]
  unfold read?
  rw [hspan]
  simp only
  split
  · exact absurd rfl (hr ' ' rfl).2
  · rfl

end Toml.Scalar
end ProxyWatch
