import ProxyWatch.Proofs.Text.Run
import ProxyWatch.Toml.Printer
import ProxyWatch.Toml.Quoted

/-! Quoted text of TOML documents is read as the text that was put in quotes, whatever its form. -/
namespace ProxyWatch.Toml

/-! Runs of one character -/

section
variable {c d : Char} {cs : List Char}

/-- The longest run and the run at the end, of what was counted so far and a text behind it. -/
def countRuns (c : Char) (counts : Nat × Nat) (cs : List Char) : Nat × Nat :=
  cs.foldl (fun (longest, current) d => if d == c then (max longest (current + 1), current + 1) else (longest, 0)) counts

theorem countRuns_cons (longest current : Nat) : countRuns c (longest, current) (d :: cs) =
    if d = c then countRuns c (max longest (current + 1), current + 1) cs else countRuns c (longest, 0) cs := by
  by_cases h : d = c <;> simp [countRuns, h]

theorem le_countRuns (c : Char) (cs : List Char) (longest current : Nat) :
    longest ≤ (countRuns c (longest, current) cs).1 := by
  induction cs generalizing longest current with
  | nil => exact Nat.le_refl _
  | cons d cs ih =>
    rw [countRuns_cons]
    split
    · exact Nat.le_trans (Nat.le_max_left _ _) (ih _ _)
    · exact ih _ _

/-- More before means more in the end. -/
theorem countRuns_mono (c : Char) (cs : List Char) {longest current longest' current' : Nat}
    (hl : longest ≤ longest') (hc : current ≤ current') :
    (countRuns c (longest, current) cs).1 ≤ (countRuns c (longest', current') cs).1 := by
  induction cs generalizing longest current longest' current' with
  | nil => exact hl
  | cons d cs ih =>
    rw [countRuns_cons, countRuns_cons]
    split
    · exact ih (by omega) (by omega)
    · exact ih hl (Nat.le_refl 0)

theorem longestRun_tail (c d : Char) (cs : List Char) : longestRun c cs ≤ longestRun c (d :: cs) := by
  change (countRuns c (0, 0) cs).1 ≤ (countRuns c (0, 0) (d :: cs)).1
  rw [countRuns_cons]
  split
  · exact countRuns_mono c cs (Nat.zero_le _) (Nat.zero_le _)
  · exact Nat.le_refl _

theorem length_le_longestRun (c : Char) (n : Nat) (cs : List Char) :
    n ≤ longestRun c (List.replicate n c ++ cs) := by
  have hcount : ∀ longest current, longest = current →
      current + n ≤ (countRuns c (longest, current) (List.replicate n c ++ cs)).1 := by
    induction n with
    | zero =>
      rintro longest current rfl
      exact le_countRuns c cs _ _
    | succ n ih =>
      rintro longest current rfl
      rw [List.replicate_succ, List.cons_append, countRuns_cons, if_pos rfl]
      have := ih (max longest (longest + 1)) (longest + 1) (by omega)
      omega
  have := hcount 0 0 rfl
  rwa [Nat.zero_add] at this

theorem not_mem_of_longestRun_eq_zero (h : longestRun c cs = 0) : c ∉ cs := by
  induction cs with
  | nil => simp
  | cons d cs ih =>
    have htail := longestRun_tail c d cs
    have hne : c ≠ d := by
      rintro rfl
      have := length_le_longestRun c 1 cs
      simp only [List.replicate_one, List.singleton_append] at this
      omega
    simp [hne, ih (by omega)]

end

namespace Quoted

variable {c q : Char} {cs rest : List Char}

/-! Escapes -/

theorem charOf?_toNat (c : Char) : charOf? c.toNat = some c := by
  have h : c.toNat.isValidChar := c.valid
  rw [charOf?, if_pos h, Char.ofNat_toNat]

theorem hexChar?_control {c : Char} (h : c.toNat < 0x80) (rest : List Char) :
    hexChar? 4 ('0' :: '0' :: Hex.upperDigit (c.toNat / 16) :: Hex.upperDigit (c.toNat % 16) :: rest) =
      some (c, rest) := by
  have hdigits : ∀ n < 16, Hex.isDigit (Hex.upperDigit n) = true ∧ Hex.value? (Hex.upperDigit n) = some n := by decide
  obtain ⟨hhigh, hv⟩ := hdigits (c.toNat / 16) (by omega)
  obtain ⟨hlow, hw⟩ := hdigits (c.toNat % 16) (by omega)
  have hz : Hex.value? '0' = some 0 := by decide
  have hnumber : Hex.number ['0', '0', Hex.upperDigit (c.toNat / 16), Hex.upperDigit (c.toNat % 16)] = c.toNat := by
    simp only [Hex.number, List.foldl_cons, List.foldl_nil, hz, hv, hw, Option.getD_some]
    omega
  have hisz : Hex.isDigit '0' = true := by decide
  simp [hexChar?, hnumber, hhigh, hlow, hisz, charOf?_toNat]

/-- How a character that is no quote stands in a string with escapes: as it is, or as an escape. -/
inductive Written (long : Bool) (c : Char) : List Char → Prop
  | plain (hline : isLineChar c = true ∨ long = true ∧ c = '\n') (hb : c ≠ '\\') (hr : c ≠ '\r') : Written long c [c]
  | escaped (e : Char) (more : List Char) (hread : ∀ rest, escape? (e :: more ++ rest) = some (c, rest))
      (hblank : isBlank e = false) (hn : e ≠ '\n') (hr : e ≠ '\r') : Written long c ('\\' :: e :: more)

theorem escapeChar_written (long : Bool) (c : Char) : Written long c (escapeChar long c) := by
  unfold escapeChar
  split
  case h_3 =>
    split
    · rename_i hlong
      exact .plain (.inr ⟨hlong, rfl⟩) (by decide) (by decide)
    · exact .escaped _ _ (fun _ => rfl) rfl (by decide) (by decide)
  case h_7 _ _ _ _ hr hb =>
    split
    · rename_i hcontrol
      simp only [Bool.or_eq_true, decide_eq_true_eq] at hcontrol
      exact .escaped 'u' _ (hexChar?_control (by omega)) rfl (by decide) (by decide)
    · rename_i hcontrol
      simp only [Bool.or_eq_true, decide_eq_true_eq, not_or] at hcontrol
      have hline : isLineChar c = true := by
        simp only [isLineChar, Bool.or_eq_true, Bool.and_eq_true, decide_eq_true_eq]
        exact .inr ⟨by omega, hcontrol.2⟩
      exact .plain (.inl hline) hb hr
  all_goals exact .escaped _ _ (fun _ => rfl) rfl (by decide) (by decide)

section
variable {body : List Char}

theorem escapeChars_cons {long : Bool} {quotes : Nat} (hq : c ≠ '"') : ∃ written, Written long c written ∧
    escapeChars long quotes (c :: cs) = written ++ escapeChars long 0 cs :=
  ⟨_, escapeChar_written long c, escapeChars.eq_3 _ _ _ _ hq⟩

/-! Strings in a line -/

theorem basic?_plain (hq : c ≠ '"') (hb : c ≠ '\\') (hline : isLineChar c = true)
    (hr : basic? cs = some (body, rest)) : basic? (c :: cs) = some (c :: body, rest) := by
  rw [basic?.eq_4 _ _ hq hb, if_pos hline, hr]
  rfl

theorem basic?_escape {r : List Char} (hread : escape? cs = some (c, r)) (hr : basic? r = some (body, rest)) :
    basic? ('\\' :: cs) = some (c :: body, rest) := by
  rw [basic?.eq_3]
  split
  · rename_i h
    rw [hread] at h
    cases h
  · rename_i h
    rw [hread] at h
    cases h
    simp only [hr, Option.map_some]

theorem basic?_escapeChars (quotes : Nat) (cs rest : List Char) :
    basic? (escapeChars false quotes cs ++ '"' :: rest) = some (cs, rest) := by
  induction cs generalizing quotes with
  | nil => exact basic?.eq_2 rest
  | cons c cs ih =>
    by_cases hq : c = '"'
    · subst hq
      exact basic?_escape rfl (ih 0)
    · obtain ⟨written, hwritten, hcons⟩ := escapeChars_cons hq
      rw [hcons]
      cases hwritten with
      | plain hline hb _ =>
        have hline : isLineChar c = true := by simpa using hline
        exact basic?_plain hq hb hline (ih 0)
      | escaped e more hread =>
        rw [List.append_assoc]
        exact basic?_escape (hread _) (ih 0)

theorem literal?_append (h : ∀ c ∈ cs, isLineChar c = true ∧ c ≠ '\'') :
    literal? (cs ++ '\'' :: rest) = some (cs, rest) := by
  induction cs with
  | nil => rfl
  | cons c cs ih =>
    obtain ⟨hc, hmore⟩ := List.forall_mem_cons.mp h
    rw [List.cons_append, literal?.eq_3 _ _ hc.2, if_pos hc.1, ih hmore]
    rfl

/-! Strings over several lines -/

/-- Behind the closing quotes of a text that ends with quotes is what is behind all of them. -/
theorem closing?_end {n : Nat} (hn : n ≤ 2) (hrest : ∀ c ∈ rest.head?, c ≠ q) :
    closing? q (List.replicate n q ++ q :: q :: q :: rest) = some (List.replicate n q, rest) := by
  have hrun : (List.replicate n q ++ q :: q :: q :: rest).takeWhile (· == q) = List.replicate (n + 3) q := by
    have hsplit : List.replicate n q ++ q :: q :: q :: rest = List.replicate (n + 3) q ++ rest := by
      rw [← List.replicate_append_replicate, List.append_assoc]
      rfl
    have hall : ∀ x ∈ List.replicate (n + 3) q, (x == q) = true := fun x hx => by simp [(List.mem_replicate.mp hx).2]
    rw [hsplit, takeWhile_append_of_head _ fun c hc => by simpa using hrest c hc, List.takeWhile_eq_self_iff.mpr hall]
  have hdrop : (List.replicate n q ++ q :: q :: q :: rest).drop (3 + n) = rest := by
    rw [List.drop_append, List.length_replicate, List.drop_eq_nil_of_le (by simp)]
    simp
  unfold closing?
  rw [hrun, List.length_replicate]
  simp only
  rw [if_neg (by omega), show min (n + 3 - 3) 2 = n by omega, hdrop]

/-- One or two quotes don't close the text. -/
theorem closing?_none {n : Nat} (hn : n ≤ 2) (hc : c ≠ q) : closing? q (List.replicate n q ++ c :: cs) = none := by
  have hrun : (List.replicate n q ++ c :: cs).takeWhile (· == q) = List.replicate n q :=
    takeWhile_append_stop (fun x hx => by simp [(List.mem_replicate.mp hx).2]) (by simpa using hc)
  unfold closing?
  rw [hrun, List.length_replicate]
  exact if_pos (by omega)

theorem longBasic?_plain (hq : c = '"' → closing? '"' (c :: cs) = none) (hb : c ≠ '\\') (hcr : c ≠ '\r')
    (hline : isLineChar c = true ∨ c = '\n') (hr : longBasic? cs = some (body, rest)) :
    longBasic? (c :: cs) = some (c :: body, rest) := by
  have hclosing : (if c = '"' then closing? '"' (c :: cs) else none) = none := by
    split
    · rename_i h
      exact hq h
    · rfl
  rw [longBasic?.eq_4 _ _ hb fun _ h _ => hcr h, hclosing]
  simp only
  rw [if_pos (by simpa using hline), hr]
  rfl

theorem longBasic?_closing {done : List Char × List Char} (h : closing? '"' ('"' :: cs) = some done) :
    longBasic? ('"' :: cs) = some done := by
  rw [longBasic?.eq_4 _ _ (by decide) fun _ h _ => absurd h (by decide), if_pos rfl, h]

theorem afterFold?_none (hblank : isBlank c = false) (hn : c ≠ '\n') (hr : c ≠ '\r') : afterFold? (c :: cs) = none := by
  have hbreak : afterBreak? (c :: cs) = none := by
    unfold afterBreak?
    split <;> simp_all
  simp [afterFold?, hblank, hbreak]

theorem longBasic?_escape {r : List Char} (hfold : afterFold? cs = none) (hread : escape? cs = some (c, r))
    (hr : longBasic? r = some (body, rest)) : longBasic? ('\\' :: cs) = some (c :: body, rest) := by
  rw [longBasic?.eq_2]
  split
  · rename_i h
    rw [hfold] at h
    cases h
  · split
    · rename_i h
      rw [hread] at h
      cases h
    · rename_i h
      rw [hread] at h
      cases h
      simp only [hr, Option.map_some]

/-- At most two bare quotes stand in a row, those just written included. -/
theorem escapeChars_front (cs : List Char) (quotes : Nat) (hq : quotes ≤ 2) : ∃ n ≤ 2 - quotes,
    cs = List.replicate n '"' ∧ escapeChars true quotes cs = List.replicate n '"' ∨
    ∃ c more, c ≠ '"' ∧ escapeChars true quotes cs = List.replicate n '"' ++ c :: more := by
  induction cs generalizing quotes with
  | nil => exact ⟨0, Nat.zero_le _, .inl ⟨rfl, rfl⟩⟩
  | cons c cs ih =>
    by_cases hc : c = '"'
    · subst hc
      rw [escapeChars]
      by_cases hbare : quotes < 2
      · rw [if_pos (by simpa using hbare)]
        obtain ⟨n, hn, h⟩ := ih (quotes + 1) (by omega)
        refine ⟨n + 1, by omega, ?_⟩
        rcases h with ⟨hcs, hfront⟩ | ⟨d, more, hd, hfront⟩
        · exact .inl ⟨by rw [List.replicate_succ, ← hcs], by rw [List.replicate_succ, ← hfront]⟩
        · exact .inr ⟨d, more, hd, by rw [List.replicate_succ, List.cons_append, ← hfront]⟩
      · rw [if_neg (by simpa using hbare)]
        exact ⟨0, Nat.zero_le _, .inr ⟨'\\', _, by decide, rfl⟩⟩
    · obtain ⟨written, hwritten, hcons⟩ := escapeChars_cons hc
      rw [hcons]
      refine ⟨0, Nat.zero_le _, .inr ?_⟩
      cases hwritten with
      | plain => exact ⟨c, _, hc, rfl⟩
      | escaped e more => exact ⟨'\\', _, by decide, rfl⟩

theorem longBasic?_escapeChars (cs : List Char) {quotes : Nat} (hq : quotes ≤ 2) (hrest : ∀ c ∈ rest.head?, c ≠ '"') :
    longBasic? (escapeChars true quotes cs ++ '"' :: '"' :: '"' :: rest) = some (cs, rest) := by
  induction cs generalizing quotes with
  | nil => exact longBasic?_closing (closing?_end (n := 0) (by omega) hrest)
  | cons c cs ih =>
    by_cases hc : c = '"'
    · subst hc
      rw [escapeChars]
      by_cases hbare : quotes < 2
      · rw [if_pos (by simpa using hbare), List.cons_append]
        -- A bare quote is the first of those that end the text, or something else comes before a third one.
        obtain ⟨n, hn, ⟨hcs, hfront⟩ | ⟨d, more, hd, hfront⟩⟩ := escapeChars_front cs (quotes + 1) (by omega)
        · have hclosing := closing?_end (n := n + 1) (by omega) hrest
          rw [List.replicate_succ, List.cons_append, ← hfront, hfront, ← hcs] at hclosing
          rw [hfront, ← hcs]
          exact longBasic?_closing hclosing
        · refine longBasic?_plain (fun _ => ?_) (by decide) (by decide) (.inl rfl) (ih (by omega))
          rw [hfront, List.append_assoc]
          exact closing?_none (n := n + 1) (by omega) hd
      · rw [if_neg (by simpa using hbare)]
        exact longBasic?_escape (afterFold?_none rfl (by decide) (by decide)) rfl (ih (by omega))
    · obtain ⟨written, hwritten, hcons⟩ := escapeChars_cons hc
      rw [hcons]
      cases hwritten with
      | plain hline hb hcr =>
        exact longBasic?_plain (fun h => absurd h hc) hb hcr (hline.imp_right And.right) (ih (by omega))
      | escaped e more hread hblank hn hcr =>
        rw [List.append_assoc]
        exact longBasic?_escape (afterFold?_none hblank hn hcr) (hread _) (ih (by omega))

theorem longLiteral?_plain (hq : c = '\'' → closing? '\'' (c :: cs) = none)
    (hline : isLineChar c = true ∨ c = '\n') (hr : longLiteral? cs = some (body, rest)) :
    longLiteral? (c :: cs) = some (c :: body, rest) := by
  have hcr : c ≠ '\r' := by
    rintro rfl
    exact absurd hline (by decide)
  have hclosing : (if c = '\'' then closing? '\'' (c :: cs) else none) = none := by
    split
    · rename_i h
      exact hq h
    · rfl
  rw [longLiteral?.eq_3 _ _ fun _ h _ => hcr h, hclosing]
  simp only
  rw [if_pos (by simpa using hline), hr]
  rfl

theorem longLiteral?_closing {done : List Char × List Char} (h : closing? '\'' ('\'' :: cs) = some done) :
    longLiteral? ('\'' :: cs) = some done := by
  rw [longLiteral?.eq_3 _ _ fun _ h _ => absurd h (by decide), if_pos rfl, h]

theorem longLiteral?_append (hline : ∀ c ∈ cs, isLineChar c = true ∨ c = '\n') (hruns : longestRun '\'' cs ≤ 2)
    (hrest : ∀ c ∈ rest.head?, c ≠ '\'') :
    longLiteral? (cs ++ '\'' :: '\'' :: '\'' :: rest) = some (cs, rest) := by
  induction cs with
  | nil => exact longLiteral?_closing (closing?_end (n := 0) (by omega) hrest)
  | cons c cs ih =>
    obtain ⟨hc, hmore⟩ := List.forall_mem_cons.mp hline
    have ih := ih hmore (Nat.le_trans (longestRun_tail '\'' c cs) hruns)
    by_cases hq : c = '\''
    · subst hq
      -- The quotes from here on are at most two, at the end of the text or before something else.
      rcases forall_or_exists_stop (· == '\'') cs with hall | ⟨run, d, more, rfl, hrun, hd⟩
      · obtain ⟨n, rfl⟩ : ∃ n, cs = List.replicate n '\'' :=
          ⟨_, List.eq_replicate_of_mem fun x hx => by simpa using hall x hx⟩
        have hn := length_le_longestRun '\'' (n + 1) []
        rw [List.append_nil, List.replicate_succ] at hn
        exact longLiteral?_closing (closing?_end (n := n + 1) (by omega) hrest)
      · obtain ⟨n, rfl⟩ : ∃ n, run = List.replicate n '\'' :=
          ⟨_, List.eq_replicate_of_mem fun x hx => by simpa using hrun x hx⟩
        have hn := length_le_longestRun '\'' (n + 1) (d :: more)
        rw [List.replicate_succ, List.cons_append] at hn
        refine longLiteral?_plain (fun _ => ?_) hc ih
        have hnone : closing? '\'' (List.replicate (n + 1) '\'' ++ d :: (more ++ '\'' :: '\'' :: '\'' :: rest)) = none :=
          closing?_none (by omega) (by simpa using hd)
        simpa [List.replicate_succ] using hnone
    · exact longLiteral?_plain (fun h => absurd h hq) hc ih

end

/-! Every form -/

theorem dropBreak_break (cs : List Char) : dropBreak ('\n' :: cs) = cs := rfl

theorem dropBreak_eq (h : ∀ c ∈ cs.head?, c ≠ '\n' ∧ c ≠ '\r') : dropBreak cs = cs := by
  have hbreak : afterBreak? cs = none := by
    unfold afterBreak?
    split
    · exact absurd rfl (h '\n' rfl).1
    · exact absurd rfl (h '\r' rfl).2
    · rfl
  rw [dropBreak, hbreak]
  rfl

/-- A line feed in front of the text is left out, and it is only there if the text has others. -/
theorem dropBreak_start {inside : List Char} (h : '\n' ∉ cs → ∀ c ∈ inside.head?, c ≠ '\n' ∧ c ≠ '\r') :
    dropBreak ((if cs.contains '\n' then ['\n'] else []) ++ inside) = inside := by
  by_cases hn : '\n' ∈ cs
  · simp [hn, dropBreak_break]
  · simp [hn, dropBreak_eq (h hn)]

/-- The text can stand in a form. -/
def Fits (cs : List Char) : TextForm → Prop
  | .basic | .longBasic => True
  | .literal => ∀ c ∈ cs, isLineChar c = true ∧ c ≠ '\''
  | .longLiteral => (∀ c ∈ cs, isLineChar c = true ∨ c = '\n') ∧ longestRun '\'' cs ≤ 2

/-- In a line a quote of the text is never the first character, and the closing quote is not followed by another. -/
theorem escapeChars_ne (cs : List Char) (hrest : ∀ c ∈ rest.head?, c ≠ '"') (r : List Char) :
    escapeChars false 0 cs ++ '"' :: rest ≠ '"' :: '"' :: r := by
  intro h
  cases cs with
  | nil =>
    obtain ⟨-, rfl⟩ := List.cons.inj h
    exact hrest '"' rfl rfl
  | cons c cs =>
    by_cases hq : c = '"'
    · subst hq
      cases h
    · obtain ⟨written, hwritten, hcons⟩ := escapeChars_cons hq
      rw [hcons] at h
      cases hwritten with
      | plain => exact hq (List.cons.inj h).1
      | escaped => cases h

theorem literal_ne (hcs : ∀ c ∈ cs, isLineChar c = true ∧ c ≠ '\'') (hrest : ∀ c ∈ rest.head?, c ≠ '\'')
    (r : List Char) : cs ++ '\'' :: rest ≠ '\'' :: '\'' :: r := by
  intro h
  cases cs with
  | nil =>
    obtain ⟨-, rfl⟩ := List.cons.inj h
    exact hrest '\'' rfl rfl
  | cons c cs => exact (hcs c (by simp)).2 (List.cons.inj h).1

/-- A long text begins with a line break only if there is one in it. -/
theorem head?_escapeChars (h : '\n' ∉ cs) :
    ∀ c ∈ (escapeChars true 0 cs ++ '"' :: '"' :: '"' :: rest).head?, c ≠ '\n' ∧ c ≠ '\r' := by
  intro d hd
  cases cs with
  | nil =>
    cases hd
    decide
  | cons c cs =>
    by_cases hq : c = '"'
    · subst hq
      cases hd
      decide
    · obtain ⟨written, hwritten, hcons⟩ := escapeChars_cons hq
      rw [hcons] at hd
      cases hwritten with
      | plain hline hb hcr =>
        cases hd
        exact ⟨fun hn => h (by simp [hn]), hcr⟩
      | escaped =>
        cases hd
        decide

theorem head?_literal (hcs : ∀ c ∈ cs, isLineChar c = true ∨ c = '\n') (h : '\n' ∉ cs) :
    ∀ c ∈ (cs ++ '\'' :: '\'' :: '\'' :: rest).head?, c ≠ '\n' ∧ c ≠ '\r' := by
  intro d hd
  cases cs with
  | nil =>
    cases hd
    decide
  | cons c cs =>
    cases hd
    refine ⟨fun hn => h (by simp [hn]), ?_⟩
    rintro rfl
    exact absurd (hcs '\r' (by simp)) (by decide)

/-- Text in quotes is read as the text, whatever the form. -/
theorem read?_quoteAs {form : TextForm} (hfits : Fits cs form) (hrest : ∀ c ∈ rest.head?, c ≠ '"' ∧ c ≠ '\'') :
    read? (quoteAs form cs ++ rest) = some (String.ofList cs, rest) := by
  have hdouble : ∀ c ∈ rest.head?, c ≠ '"' := fun c hc => (hrest c hc).1
  have hsingle : ∀ c ∈ rest.head?, c ≠ '\'' := fun c hc => (hrest c hc).2
  cases form with
  | basic =>
    have htext : quoteAs .basic cs ++ rest = '"' :: (escapeChars false 0 cs ++ '"' :: rest) := by simp [quoteAs]
    rw [htext, read?.eq_3 _ (escapeChars_ne cs hdouble), basic?_escapeChars]
    rfl
  | literal =>
    have htext : quoteAs .literal cs ++ rest = '\'' :: (cs ++ '\'' :: rest) := by simp [quoteAs]
    rw [htext, read?.eq_4 _ (literal_ne hfits hsingle), literal?_append hfits]
    rfl
  | longBasic =>
    have htext : quoteAs .longBasic cs ++ rest = '"' :: '"' :: '"' :: ((if cs.contains '\n' then ['\n'] else []) ++
        (escapeChars true 0 cs ++ '"' :: '"' :: '"' :: rest)) := by simp [quoteAs]
    rw [htext, read?.eq_1, dropBreak_start head?_escapeChars, longBasic?_escapeChars cs (Nat.zero_le 2) hdouble]
    rfl
  | longLiteral =>
    have htext : quoteAs .longLiteral cs ++ rest = '\'' :: '\'' :: '\'' :: ((if cs.contains '\n' then ['\n'] else []) ++
        (cs ++ '\'' :: '\'' :: '\'' :: rest)) := by simp [quoteAs]
    rw [htext, read?.eq_2, dropBreak_start (head?_literal hfits.1), longLiteral?_append hfits.1 hfits.2 hsingle]
    rfl

theorem isLineChar_of_hasControls (h : (TextTraits.of cs).hasControls = false) :
    ∀ c ∈ cs, isLineChar c = true ∨ c = '\n' := by
  intro c hc
  have hcontrol := List.any_eq_false.mp h c hc
  simp only [Bool.and_eq_true, Bool.or_eq_true, decide_eq_true_eq, bne_iff_ne, ne_eq] at hcontrol
  by_cases hn : c = '\n'
  · exact .inr hn
  · by_cases ht : c = '\t'
    · exact .inl (by simp [isLineChar, ht])
    · have hno : ¬ (c.toNat < 0x20 ∨ c.toNat = 0x7F) := fun hlow => hcontrol ⟨⟨hlow, ht⟩, hn⟩
      left
      simp only [isLineChar, Bool.or_eq_true, Bool.and_eq_true, decide_eq_true_eq]
      exact .inr (by omega)

theorem fits_literal (hcontrols : (TextTraits.of cs).hasControls = false) (hquotes : (TextTraits.of cs).singleQuotes = 0)
    (hfeed : (TextTraits.of cs).hasLineFeed = false) : Fits cs .literal := by
  intro c hc
  have hq : c ≠ '\'' := by
    rintro rfl
    exact not_mem_of_longestRun_eq_zero hquotes hc
  have hn : c ≠ '\n' := by
    rintro rfl
    exact absurd hc (by simpa [TextTraits.of] using hfeed)
  exact ⟨(isLineChar_of_hasControls hcontrols c hc).resolve_right hn, hq⟩

/-- A string fits into the form that is taken for it. -/
theorem fits_of (cs : List Char) : Fits cs (.of (.of cs)) := by
  unfold TextForm.of
  split
  · trivial
  · split
    · rename_i h
      simp only [Bool.and_eq_true, Bool.not_eq_true', decide_eq_true_eq] at h
      exact fits_literal h.1.1 h.1.2 h.2
    · split
      · trivial
      · split
        · rename_i h
          simp only [Bool.and_eq_true, Bool.not_eq_true', decide_eq_true_eq] at h
          exact ⟨isLineChar_of_hasControls h.1, h.2⟩
        · split <;> trivial

/-- A string is read as it was written. -/
theorem read?_quote (s : String) (hrest : ∀ c ∈ rest.head?, c ≠ '"' ∧ c ≠ '\'') :
    read? (quote s ++ rest) = some (s, rest) := by
  rw [quote, read?_quoteAs (fits_of s.toList) hrest, String.ofList_toList]

end Quoted
end ProxyWatch.Toml
