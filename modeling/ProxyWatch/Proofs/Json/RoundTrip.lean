import ProxyWatch.Json.Printer
import ProxyWatch.Json.Reader
import ProxyWatch.Proofs.Text.Numeral

/-! A JSON value is read as it was written, compact or over several lines. -/
namespace ProxyWatch.Json

/-! String literals -/

section
variable {a b c d : Char} {u : Nat} {r body rest : List Char}

theorem isSome_hex4?_of_stringBody? {x : Option (List Char) × List Char}
    (h : stringBody? ('\\' :: 'u' :: a :: b :: c :: d :: r) = some x) : ∃ u, hex4? a b c d = some u := by
  cases hu : hex4? a b c d with
  | some u => exact ⟨u, rfl⟩
  | none =>
    by_cases hr : ∃ e f g i r', r = '\\' :: 'u' :: e :: f :: g :: i :: r'
    · obtain ⟨e, f, g, i, r', rfl⟩ := hr
      simp [stringBody?.eq_3, hu] at h
    · rw [stringBody?.eq_4 _ _ _ _ _ fun e f g i r' he => hr ⟨e, f, g, i, r', he⟩] at h
      simp [hu] at h

/-- An escaped number that is no surrogate is read for itself, whatever is escaped next. -/
theorem stringBody?_unicode (hu : hex4? a b c d = some u) (hh : isHighSurrogate u = false)
    (hl : isLowSurrogate u = false) (hr : stringBody? r = some (some body, rest)) :
    stringBody? ('\\' :: 'u' :: a :: b :: c :: d :: r) = some (some (Char.ofNat u :: body), rest) := by
  by_cases hnext : ∃ e f g i r', r = '\\' :: 'u' :: e :: f :: g :: i :: r'
  · obtain ⟨e, f, g, i, r', rfl⟩ := hnext
    obtain ⟨v, hv⟩ := isSome_hex4?_of_stringBody? hr
    simp [stringBody?.eq_3, hu, hv, hh, hl, hr]
  · rw [stringBody?.eq_4 _ _ _ _ _ fun e f g i r' he => hnext ⟨e, f, g, i, r', he⟩]
    simp [hu, hh, hl, hr]

theorem stringBody?_short {e : Char} (hc : c ≠ 'u') (he : shortEscape? c = some e)
    (hr : stringBody? r = some (some body, rest)) :
    stringBody? ('\\' :: c :: r) = some (some (e :: body), rest) := by
  rw [stringBody?.eq_5 _ _ (fun _ _ _ _ _ _ _ _ _ h => (hc h).elim) fun _ _ _ _ _ h => (hc h).elim]
  simp [he, hr]

theorem stringBody?_plain (hq : c ≠ '"') (hb : c ≠ '\\') (hc : ¬ c.toNat < 0x20)
    (hr : stringBody? r = some (some body, rest)) :
    stringBody? (c :: r) = some (some (c :: body), rest) := by
  rw [stringBody?.eq_6 _ _ hq (fun _ _ _ _ _ _ _ _ _ h => (hb h).elim) (fun _ _ _ _ _ h => (hb h).elim)
    fun _ _ h => (hb h).elim]
  simp [hb, hc, hr]

theorem hex4?_control (h : u < 0x20) :
    hex4? '0' '0' (Hex.lowerDigit (u / 16)) (Hex.lowerDigit (u % 16)) = some u := by
  have hz : Hex.value? '0' = some 0 := by decide
  simp only [hex4?, hz, Hex.value?_lowerDigit (u / 16) (by omega), Hex.value?_lowerDigit (u % 16) (by omega)]
  exact congrArg some (by omega)

theorem stringBody?_escape (c : Char) (hr : stringBody? r = some (some body, rest)) :
    stringBody? (escape c ++ r) = some (some (c :: body), rest) := by
  unfold escape
  split
  case h_8 _ hq hb _ _ _ _ _ =>
    split
    · rename_i hc
      have hh : isHighSurrogate c.toNat = false := by simp [isHighSurrogate]; omega
      have hl : isLowSurrogate c.toNat = false := by simp [isLowSurrogate]; omega
      have := stringBody?_unicode (hex4?_control hc) hh hl hr
      rwa [Char.ofNat_toNat] at this
    · rename_i hc
      exact stringBody?_plain hq hb hc hr
  all_goals exact stringBody?_short (by decide) rfl hr

/-- A string literal is read as its text. -/
theorem stringBody?_quoted (s : String) (rest : List Char) :
    stringBody? (s.toList.flatMap escape ++ '"' :: rest) = some (some s.toList, rest) := by
  induction s.toList with
  | nil => simp [stringBody?]
  | cons c cs ih =>
    rw [List.flatMap_cons, List.append_assoc]
    exact stringBody?_escape c ih

end

/-! Numbers -/

/-- The text can't go on with a numeral. -/
def EndsNumber (rest : List Char) : Prop :=
  ∀ c ∈ rest.head?, c.isDigit = false ∧ c ≠ '.' ∧ c ≠ 'e' ∧ c ≠ 'E'

section
variable {rest : List Char}

theorem EndsNumber.cons {c : Char} (h : c.isDigit = false ∧ c ≠ '.' ∧ c ≠ 'e' ∧ c ≠ 'E') :
    EndsNumber (c :: rest) := by
  rintro _ ⟨⟩
  exact h

theorem fractionDigits?_none (h : ∀ c ∈ rest.head?, c ≠ '.') : fractionDigits? rest = some ([], rest) := by
  unfold fractionDigits?
  split
  · exact (h '.' rfl rfl).elim
  · rfl

theorem exponent?_none (h : ∀ c ∈ rest.head?, c ≠ 'e' ∧ c ≠ 'E') : exponent? rest = some (0, false, rest) := by
  cases rest with
  | nil => rfl
  | cons c r =>
    obtain ⟨he, hE⟩ := h c rfl
    simp [exponent?, he, hE]

/-- A numeral begins with a digit, and not with a sign. -/
theorem exists_digits (n : Nat) : ∃ c cs, Decimal.digits n = c :: cs ∧ c.isDigit = true ∧ c ≠ '-' ∧ c ≠ '+' := by
  obtain ⟨c, cs, hcs⟩ := List.exists_cons_of_ne_nil (Decimal.digits_ne_nil n)
  have hc : c.isDigit = true := Decimal.isDigit_of_mem_digits n c (by simp [hcs])
  exact ⟨c, cs, hcs, hc, fun h => by simp [h] at hc, fun h => by simp [h] at hc⟩

theorem exponent?_intChars (i : Int) (h : ∀ c ∈ rest.head?, c.isDigit = false) :
    exponent? ('e' :: (intChars i ++ rest)) = some (i, true, rest) := by
  have hrun := Decimal.run_append (Decimal.isDigit_of_mem_digits i.natAbs) h
  have hv := Decimal.value_digits i.natAbs
  obtain ⟨c, cs, hcs, -, hm, hp⟩ := exists_digits i.natAbs
  unfold exponent? intChars
  rw [hcs] at hv hrun ⊢
  rw [List.cons_append] at hrun
  simp only [beq_self_eq_true, Bool.true_or, if_true]
  by_cases hi : i < 0
  · have habs : -(i.natAbs : Int) = i := by omega
    simp only [hi, if_true, List.cons_append, List.nil_append, hrun, hv, List.isEmpty_cons, habs]
    rfl
  · have habs : (i.natAbs : Int) = i := by omega
    simp only [hi, if_false, List.nil_append, List.cons_append]
    split
    · simp_all
    · simp_all
    · simp only [hrun, hv, List.isEmpty_cons, habs, Bool.false_eq_true, if_false]

/-- The digits of a number, and what is made of what follows them. -/
theorem number?_digits (negative : Bool) (n : Nat) (rest : List Char) (h : ∀ c ∈ rest.head?, c.isDigit = false) :
    number? ((if negative then ['-'] else []) ++ Decimal.digits n ++ rest) = (do
      let (fraction, r) ← fractionDigits? rest
      let (exponent, written, r) ← exponent? r
      let m := Decimal.value (Decimal.digits n ++ fraction)
      if fraction.isEmpty && !written && !(negative && m == 0) then
        return (int (if negative then -(m : Int) else m), r)
      else return (real negative m (exponent - fraction.length), r)) := by
  have hrun := Decimal.run_append (Decimal.isDigit_of_mem_digits n) h
  have hlead : ((Decimal.digits n).isEmpty ||
      ((Decimal.digits n).head? == some '0' && decide ((Decimal.digits n).length > 1))) = false := by
    have hn := Decimal.digits_ne_nil n
    by_cases hz : (Decimal.digits n).head? = some '0'
    · rw [Decimal.head?_digits n hz, Decimal.digits]
      simp
    · simp [hn, hz]
  unfold number?
  cases negative with
  | true => simp only [if_true, List.cons_append, List.nil_append, hrun, hlead]; rfl
  | false =>
    obtain ⟨c, cs, hcs, -, hm, -⟩ := exists_digits n
    rw [hcs] at hrun hlead ⊢
    simp only [Bool.false_eq_true, if_false, List.nil_append, List.cons_append] at hrun hlead ⊢
    split
    · simp_all
    · simp only [hrun, hlead]
      rfl

theorem number?_intChars (i : Int) (h : EndsNumber rest) : number? (intChars i ++ rest) = some (int i, rest) := by
  have hfrac := fractionDigits?_none fun c hc => (h c hc).2.1
  have hexp := exponent?_none fun c hc => (h c hc).2.2
  have := number?_digits (decide (i < 0)) i.natAbs rest fun c hc => (h c hc).1
  simp only [decide_eq_true_eq] at this
  rw [intChars, this, hfrac]
  have habs : (if i < 0 then -(i.natAbs : Int) else i.natAbs) = i := by split <;> omega
  have hz : (decide (i < 0) && i.natAbs == 0) = false := by
    simp
    omega
  simp only [Option.bind_eq_bind, Option.bind_some, hexp, List.append_nil, Decimal.value_digits, hz, habs]
  rfl

theorem number?_real {pretty : Bool} {level : Nat} (negative : Bool) (n : Nat) (exponent : Int)
    (h : ∀ c ∈ rest.head?, c.isDigit = false) :
    number? (chars pretty level (real negative n exponent) ++ rest) =
      some (real negative n exponent, rest) := by
  have hfrac : fractionDigits? ('e' :: (intChars exponent ++ rest)) =
      some ([], 'e' :: (intChars exponent ++ rest)) := fractionDigits?_none (by simp)
  have := number?_digits negative n ('e' :: (intChars exponent ++ rest)) (by simp)
  rw [chars, List.append_assoc, List.cons_append, this, hfrac]
  simp [exponent?_intChars exponent h]

end

/-! Values -/

section
variable {pretty : Bool} {level : Nat} {rest : List Char}

theorem skipSpace_breakLine (cs : List Char) : skipSpace (breakLine pretty level ++ cs) = skipSpace cs := by
  unfold breakLine
  split
  · have hs : ∀ n, skipSpace (List.replicate n ' ' ++ cs) = skipSpace cs := by
      intro n
      exact List.dropWhile_append_of_pos fun c hc => by rw [(List.mem_replicate.mp hc).2]; rfl
    exact hs _
  · rfl

/-- A numeral begins with a minus sign or a digit. -/
theorem exists_intChars (i : Int) : ∃ c cs, intChars i = c :: cs ∧ (c = '-' ∨ c.isDigit = true) := by
  obtain ⟨c, cs, hcs, hd, -⟩ := exists_digits i.natAbs
  unfold intChars
  split
  · exact ⟨_, _, rfl, .inl rfl⟩
  · exact ⟨c, cs, by simp [hcs], .inr hd⟩

theorem exists_real (pretty : Bool) (level : Nat) (negative : Bool) (n : Nat) (exponent : Int) :
    ∃ c cs, chars pretty level (real negative n exponent) = c :: cs ∧ (c = '-' ∨ c.isDigit = true) := by
  obtain ⟨c, cs, hcs, hd, -⟩ := exists_digits n
  rw [chars]
  cases negative with
  | true => exact ⟨_, _, rfl, .inl rfl⟩
  | false => exact ⟨c, cs ++ 'e' :: intChars exponent, by simp [hcs], .inr hd⟩

theorem of_numeral {c : Char} (h : c = '-' ∨ c.isDigit = true) : isSpace c = false ∧ c ≠ ']' ∧ c ≠ '"' ∧
    c ≠ '[' ∧ c ≠ '\x7b' ∧ c ≠ 'n' ∧ c ≠ 't' ∧ c ≠ 'f' := by
  rcases h with rfl | h
  · decide
  · have hne : ∀ d : Char, d.isDigit = false → c ≠ d := by
      rintro d hd rfl
      rw [hd] at h
      cases h
    simp [isSpace, hne]

/-- A value begins with something that is neither white space nor a closing bracket. -/
theorem exists_chars (pretty : Bool) (level : Nat) (j : Json) :
    ∃ c cs, chars pretty level j = c :: cs ∧ isSpace c = false ∧ c ≠ ']' := by
  cases j with
  | null => exact ⟨_, _, by rw [chars], rfl, by decide⟩
  | bool b => cases b <;> exact ⟨_, _, by rw [chars]; rfl, rfl, by decide⟩
  | int i =>
    obtain ⟨c, cs, hcs, hc⟩ := exists_intChars i
    exact ⟨c, cs, by rw [chars, hcs], (of_numeral hc).1, (of_numeral hc).2.1⟩
  | real negative n exponent =>
    obtain ⟨c, cs, hcs, hc⟩ := exists_real pretty level negative n exponent
    exact ⟨c, cs, hcs, (of_numeral hc).1, (of_numeral hc).2.1⟩
  | str s => exact ⟨_, _, by rw [chars]; rfl, rfl, by decide⟩
  | unreadable => exact ⟨_, _, by rw [chars], rfl, by decide⟩
  | arr js => cases js <;> exact ⟨_, _, by rw [chars]; try rfl, rfl, by decide⟩
  | obj ms => cases ms <;> exact ⟨_, _, by rw [chars]; try rfl, rfl, by decide⟩

theorem skipSpace_chars (j : Json) (cs : List Char) :
    skipSpace (chars pretty level j ++ cs) = chars pretty level j ++ cs := by
  obtain ⟨c, cs', hcs, hc, -⟩ := exists_chars pretty level j
  simp [hcs, skipSpace, hc]

/-- Behind a value nothing comes that a number could go on with. -/
theorem endsNumber_breakLine {c : Char} {cs : List Char} (h : c.isDigit = false ∧ c ≠ '.' ∧ c ≠ 'e' ∧ c ≠ 'E') :
    EndsNumber (breakLine pretty level ++ c :: cs) := by
  unfold breakLine
  split
  · exact .cons (by decide)
  · exact .cons h

theorem endsNumber_moreItems (js : List Json) : EndsNumber (moreItems pretty level js ++ rest) := by
  cases js with
  | nil =>
    rw [moreItems, List.append_assoc]
    exact endsNumber_breakLine (by decide)
  | cons j js =>
    rw [moreItems]
    exact .cons (by decide)

theorem endsNumber_moreMembers (ms : List (String × Json)) :
    EndsNumber (moreMembers pretty level ms ++ rest) := by
  cases ms with
  | nil =>
    rw [moreMembers, List.append_assoc]
    exact endsNumber_breakLine (by decide)
  | cons m ms =>
    rw [moreMembers]
    exact .cons (by decide)

theorem value?_numeral {fuel : Nat} {cs text : List Char} (hs : skipSpace cs = text)
    (hc : ∃ c r, text = c :: r ∧ (c = '-' ∨ c.isDigit = true)) : value? (fuel + 1) cs = number? text := by
  obtain ⟨c, r, rfl, hc⟩ := hc
  obtain ⟨-, -, h₁, h₂, h₃, h₄, h₅, h₆⟩ := of_numeral hc
  rw [value?, hs]
  split <;> simp_all

/-- The bracket or the brace that opens a list, and the white space behind it. -/
theorem skipSpace_open (j : Json) (cs : List Char) :
    skipSpace (breakLine pretty level ++ (chars pretty level j ++ cs)) = chars pretty level j ++ cs := by
  rw [skipSpace_breakLine, skipSpace_chars]

/-- The value is read as it was written, by enough fuel, wherever it stands. -/
def Reads (pretty : Bool) (j : Json) : Prop :=
  ∀ level rest fuel cs, skipSpace cs = chars pretty level j ++ rest → EndsNumber rest →
    (chars pretty level j).length < fuel → value? fuel cs = some (j, rest)

theorem items?_chars {j : Json} {js : List Json} (hj : Reads pretty j) (hjs : ∀ x ∈ js, Reads pretty x)
    {level : Nat} {rest : List Char} (fuel : Nat) (cs : List Char)
    (hs : skipSpace cs = chars pretty (level + 1) j ++ (moreItems pretty level js ++ rest))
    (hf : (chars pretty (level + 1) j).length + (moreItems pretty level js).length < fuel) :
    items? fuel cs = some (j :: js, rest) := by
  induction js generalizing j fuel cs with
  | nil =>
    obtain ⟨fuel, rfl⟩ := Nat.exists_eq_add_one_of_ne_zero (show fuel ≠ 0 by omega)
    have hmore : 0 < (moreItems pretty level []).length := by simp [moreItems]
    rw [items?, hj (level + 1) _ fuel cs hs (endsNumber_moreItems []) (by omega)]
    have hnext : skipSpace (moreItems pretty level [] ++ rest) = ']' :: rest := by
      rw [moreItems, List.append_assoc, skipSpace_breakLine]
      rfl
    simp [hnext]
  | cons x js ih =>
    obtain ⟨fuel, rfl⟩ := Nat.exists_eq_add_one_of_ne_zero (show fuel ≠ 0 by omega)
    have hmore : 0 < (moreItems pretty level (x :: js)).length := by simp [moreItems]
    have hitems := ih (hjs x (by simp)) (fun y hy => hjs y (by simp [hy])) fuel _
      (skipSpace_open x (moreItems pretty level js ++ rest)) (by
        simp only [moreItems, List.length_cons, List.length_append] at hf
        omega)
    rw [items?, hj (level + 1) _ fuel cs hs (endsNumber_moreItems (x :: js)) (by omega)]
    have hnext : skipSpace (moreItems pretty level (x :: js) ++ rest) = ',' :: (breakLine pretty (level + 1) ++
        (chars pretty (level + 1) x ++ (moreItems pretty level js ++ rest))) := by
      simp [moreItems, skipSpace, isSpace]
    simp [hnext, hitems]

/-- The text of a member, with what comes behind it. -/
def memberChars (pretty : Bool) (level : Nat) (n : String) (j : Json) (rest : List Char) : List Char :=
  quoted n ++ ((if pretty then [':', ' '] else [':']) ++ (chars pretty (level + 1) j ++ rest))

theorem skipSpace_memberChars (n : String) (j : Json) (rest : List Char) :
    skipSpace (memberChars pretty level n j rest) = memberChars pretty level n j rest := by
  simp [memberChars, quoted, skipSpace, isSpace]

theorem skipSpace_nextMember (line : Nat) (n : String) (j : Json) (rest : List Char) :
    skipSpace (breakLine pretty line ++ memberChars pretty level n j rest) = memberChars pretty level n j rest := by
  rw [skipSpace_breakLine, skipSpace_memberChars]

/-- A member up to the white space behind its value. -/
theorem members?_member {n : String} {j : Json} (hj : Reads pretty j) {fuel : Nat} {cs : List Char}
    (hs : skipSpace cs = memberChars pretty level n j rest) (hr : EndsNumber rest)
    (hf : (chars pretty (level + 1) j).length < fuel) : members? (fuel + 1) cs =
      match skipSpace rest with
      | '\x7d' :: rest => some (some [(n, j)], rest)
      | ',' :: r => (members? fuel r).bind fun x => some (x.1.bind fun ms => some ((n, j) :: ms), x.2)
      | _ => none := by
  have hname := stringBody?_quoted n ((if pretty then [':', ' '] else [':']) ++
    (chars pretty (level + 1) j ++ rest))
  have hvalue : ∃ r, skipSpace ((if pretty then [':', ' '] else [':']) ++ (chars pretty (level + 1) j ++ rest)) =
      ':' :: r ∧ value? fuel r = some (j, rest) := by
    cases pretty with
    | true => exact ⟨_, rfl, hj (level + 1) rest fuel _ (skipSpace_chars j rest) hr hf⟩
    | false => exact ⟨_, rfl, hj (level + 1) rest fuel _ (skipSpace_chars j rest) hr hf⟩
  obtain ⟨r, hr, hv⟩ := hvalue
  simp only [memberChars, quoted, List.cons_append, List.append_assoc, List.nil_append] at hs
  rw [members?, hs]
  simp only [hname, hr, hv, Option.bind_eq_bind, Option.bind_some, Option.map_some, String.ofList_toList]
  rfl

theorem members?_chars {n : String} {j : Json} {ms : List (String × Json)} (hj : Reads pretty j)
    (hms : ∀ m ∈ ms, Reads pretty m.2) {level : Nat} {rest : List Char} (fuel : Nat) (cs : List Char)
    (hs : skipSpace cs = memberChars pretty level n j (moreMembers pretty level ms ++ rest))
    (hf : (chars pretty (level + 1) j).length + (moreMembers pretty level ms).length < fuel) :
    members? fuel cs = some (some ((n, j) :: ms), rest) := by
  induction ms generalizing n j fuel cs with
  | nil =>
    obtain ⟨fuel, rfl⟩ := Nat.exists_eq_add_one_of_ne_zero (show fuel ≠ 0 by omega)
    have hmore : 0 < (moreMembers pretty level []).length := by simp [moreMembers]
    have hnext : skipSpace (moreMembers pretty level [] ++ rest) = '\x7d' :: rest := by
      rw [moreMembers, List.append_assoc, skipSpace_breakLine]
      rfl
    rw [members?_member hj hs (endsNumber_moreMembers []) (by omega), hnext]
    rfl
  | cons m ms ih =>
    obtain ⟨fuel, rfl⟩ := Nat.exists_eq_add_one_of_ne_zero (show fuel ≠ 0 by omega)
    obtain ⟨n', j'⟩ := m
    have hmore : 0 < (moreMembers pretty level ((n', j') :: ms)).length := by simp [moreMembers]
    have hnext : skipSpace (moreMembers pretty level ((n', j') :: ms) ++ rest) = ',' ::
        (breakLine pretty (level + 1) ++ memberChars pretty level n' j' (moreMembers pretty level ms ++ rest)) := by
      simp [moreMembers, memberChars, skipSpace, isSpace]
    have hj' : Reads pretty j' := hms (n', j') (by simp)
    have hmembers := ih hj' (fun y hy => hms y (by simp [hy])) fuel _ (skipSpace_nextMember (level + 1) n' j' _) (by
      simp only [moreMembers, List.length_cons, List.length_append] at hf
      omega)
    rw [members?_member hj hs (endsNumber_moreMembers ((n', j') :: ms)) (by omega), hnext]
    simp [hmembers]

theorem reads_arr {js : List Json} (h : ∀ j ∈ js, Reads pretty j) : Reads pretty (arr js) := by
  intro level rest fuel cs hs hr hf
  obtain ⟨fuel, rfl⟩ := Nat.exists_eq_add_one_of_ne_zero (show fuel ≠ 0 by omega)
  cases js with
  | nil =>
    rw [chars] at hs
    rw [value?, hs]
    rfl
  | cons j js =>
    rw [chars] at hs hf
    have hitems := items?_chars (h j (by simp)) (fun x hx => h x (by simp [hx])) fuel _
      (skipSpace_chars j (moreItems pretty level js ++ rest)) (by
        simp only [List.length_cons, List.length_append] at hf
        omega)
    obtain ⟨c, r, hc, -, hne⟩ := exists_chars pretty (level + 1) j
    rw [value?, hs]
    simp only [List.append_assoc, List.cons_append, skipSpace_open]
    rw [hc, List.cons_append] at hitems ⊢
    split
    · simp_all
    · simp [hitems]

theorem reads_obj {ms : List (String × Json)} (h : ∀ m ∈ ms, Reads pretty m.2) : Reads pretty (obj ms) := by
  intro level rest fuel cs hs hr hf
  obtain ⟨fuel, rfl⟩ := Nat.exists_eq_add_one_of_ne_zero (show fuel ≠ 0 by omega)
  cases ms with
  | nil =>
    rw [chars] at hs
    rw [value?, hs]
    rfl
  | cons m ms =>
    obtain ⟨n, j⟩ := m
    rw [chars] at hs hf
    have hj : Reads pretty j := h (n, j) (by simp)
    have hmembers := members?_chars hj (fun x hx => h x (by simp [hx])) fuel _
      (skipSpace_memberChars n j (moreMembers pretty level ms ++ rest)) (by
        simp only [List.length_cons, List.length_append] at hf
        omega)
    have hskip : skipSpace (breakLine pretty (level + 1) ++ memberChars pretty level n j _) = _ :=
      skipSpace_nextMember (level + 1) n j (moreMembers pretty level ms ++ rest)
    rw [value?, hs]
    simp only [memberChars, List.append_assoc, List.cons_append] at hmembers hskip ⊢
    rw [hskip]
    simp only [quoted, List.cons_append] at hmembers ⊢
    change (members? fuel _).map _ = _
    rw [hmembers]
    rfl

/-- What holds of all parts of a value holds of it. -/
theorem induction {P : Json → Prop} (null : P null) (bool : ∀ b, P (bool b)) (int : ∀ i, P (int i))
    (real : ∀ negative n e, P (real negative n e)) (str : ∀ s, P (str s)) (unreadable : P unreadable)
    (arr : ∀ js, (∀ j ∈ js, P j) → P (arr js)) (obj : ∀ ms, (∀ m ∈ ms, P m.2) → P (obj ms)) (j : Json) : P j :=
  match j with
  | .null => null
  | .bool b => bool b
  | .int i => int i
  | .real negative n e => real negative n e
  | .str s => str s
  | .unreadable => unreadable
  | .arr js => arr js fun j _hj => induction null bool int real str unreadable arr obj j
  | .obj ms => obj ms fun m _hm => induction null bool int real str unreadable arr obj m.2
termination_by sizeOf j
decreasing_by
  · have := List.sizeOf_lt_of_mem _hj
    simp
    omega
  · have := List.sizeOf_lt_of_mem _hm
    obtain ⟨n, j⟩ := m
    simp at this ⊢
    omega

/-- A value with no parts. -/
theorem reads_of_value? {j : Json} (h : ∀ level rest fuel cs, skipSpace cs = chars pretty level j ++ rest →
    EndsNumber rest → value? (fuel + 1) cs = some (j, rest)) : Reads pretty j := by
  intro level rest fuel cs hs hr hf
  obtain ⟨fuel, rfl⟩ := Nat.exists_eq_add_one_of_ne_zero (show fuel ≠ 0 by omega)
  exact h level rest fuel cs hs hr

theorem reads_null : Reads pretty null := reads_of_value? fun level rest fuel cs hs _ => by
  rw [chars] at hs
  rw [value?, hs]
  rfl

theorem reads_bool (b : Bool) : Reads pretty (bool b) := reads_of_value? fun level rest fuel cs hs _ => by
  rw [chars] at hs
  rw [value?, hs]
  cases b <;> rfl

theorem reads_int (i : Int) : Reads pretty (int i) := reads_of_value? fun level rest fuel cs hs hr => by
  obtain ⟨c, r, hc, hn⟩ := exists_intChars i
  rw [chars] at hs
  rw [value?_numeral hs ⟨c, r ++ rest, by simp [hc], hn⟩, number?_intChars i hr]

theorem reads_real (negative : Bool) (n : Nat) (e : Int) : Reads pretty (real negative n e) :=
  reads_of_value? fun level rest fuel cs hs hr => by
    obtain ⟨c, r, hc, hn⟩ := exists_real pretty level negative n e
    rw [value?_numeral hs ⟨c, r ++ rest, by simp [hc], hn⟩, number?_real negative n e fun c hc => (hr c hc).1]

theorem reads_str (s : String) : Reads pretty (str s) := reads_of_value? fun level rest fuel cs hs _ => by
  rw [chars, quoted, List.append_assoc] at hs
  rw [value?, hs]
  simp [stringBody?_quoted]

theorem reads_unreadable : Reads pretty unreadable := reads_of_value? fun level rest fuel cs hs _ => by
  rw [chars] at hs
  rw [value?, hs]
  have hnext : ∀ e f g i r, '"' :: rest = '\\' :: 'u' :: e :: f :: g :: i :: r → False := by simp
  have hu : hex4? 'd' '8' '0' '0' = some 0xD800 := by decide
  simp [stringBody?.eq_4 _ _ _ _ _ hnext, hu, stringBody?, isHighSurrogate]

theorem reads (j : Json) : Reads pretty j := by
  induction j using Json.induction with
  | null => exact reads_null
  | bool b => exact reads_bool b
  | int i => exact reads_int i
  | real negative n e => exact reads_real negative n e
  | str s => exact reads_str s
  | unreadable => exact reads_unreadable
  | arr js h => exact reads_arr h
  | obj ms h => exact reads_obj h

/-- A document is read as it was written. -/
theorem parse?_chars (pretty : Bool) (j : Json) : parse? (chars pretty 0 j) = some j := by
  have hs : skipSpace (chars pretty 0 j) = chars pretty 0 j ++ [] := by simpa using skipSpace_chars j []
  have h := reads j 0 [] _ _ hs (fun _ hc => by cases hc) (Nat.lt_succ_self _)
  rw [parse?, h]
  rfl

end
end ProxyWatch.Json
