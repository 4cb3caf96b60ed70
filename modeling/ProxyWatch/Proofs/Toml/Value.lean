import ProxyWatch.Proofs.Toml.Quoted
import ProxyWatch.Proofs.Toml.Scalar
import ProxyWatch.Toml.Reader

/-! Names and values of TOML documents are read as they were written. -/
namespace ProxyWatch.Toml

variable {c : Char} {cs rest : List Char} {v : Toml} {name : String} {level depth fuel : Nat}

theorem append_ne_cons {d : Char} {r r' : List Char} (h : cs = c :: r) (hne : c ≠ d) : cs ++ rest ≠ d :: r' := by
  intro he
  rw [h] at he
  exact hne (List.cons.inj he).1

/-! Blanks -/

/-- The character is neither skipped nor closes an array. -/
def IsStart (c : Char) : Prop := isBlank c = false ∧ c ≠ '\n' ∧ c ≠ '\r' ∧ c ≠ '#' ∧ c ≠ ']'

instance (c : Char) : Decidable (IsStart c) := inferInstanceAs (Decidable (_ ∧ _))

theorem skip_cons (hblank : isBlank c = false) (hn : c ≠ '\n') (hr : c ≠ '\r') (hh : c ≠ '#') :
    skip false (c :: cs) = some (c :: cs) := by
  rw [skip.eq_4 _ _ _ hn fun _ h _ => hr h]
  simp [hblank, hh]

theorem IsStart.skip (h : IsStart c) : skip false (c :: cs) = some (c :: cs) := skip_cons h.1 h.2.1 h.2.2.1 h.2.2.2.1

theorem IsStart.skipBlanks (h : IsStart c) : skipBlanks (c :: cs) = c :: cs := by
  simp [Toml.skipBlanks, h.1]

theorem skip_indent (n : Nat) (cs : List Char) : skip false (List.replicate n ' ' ++ cs) = skip false cs := by
  induction n with
  | zero => rfl
  | succ n ih => exact ih

theorem isStart_of_isAtomChar (h : Scalar.isAtomChar c = true) : IsStart c := by
  refine ⟨?_, ?_, ?_, ?_, ?_⟩
  · by_contra hblank
    simp only [isBlank, Bool.not_eq_false, Bool.or_eq_true, beq_iff_eq] at hblank
    rcases hblank with rfl | rfl <;> exact absurd h (by decide)
  all_goals
    rintro rfl
    exact absurd h (by decide)

/-! Names -/

theorem isStart_of_isBareKeyChar (h : isBareKeyChar c = true) : IsStart c := by
  apply isStart_of_isAtomChar
  simp only [isBareKeyChar, Bool.or_eq_true] at h
  rcases h with (h | h) | h <;> simp [Scalar.isAtomChar, h]

/-- A name is written bare, or in quotes of a form that has no line breaks. -/
theorem keyChars_cases (name : String) :
    (keyChars name = name.toList ∧ name.toList ≠ [] ∧ ∀ c ∈ name.toList, isBareKeyChar c = true) ∨
    keyChars name = '"' :: (escapeChars false 0 name.toList ++ ['"']) ∨
    keyChars name = '\'' :: (name.toList ++ ['\'']) ∧ Quoted.Fits name.toList .literal := by
  unfold keyChars
  simp only
  split
  · rename_i h
    simp only [Bool.and_eq_true, Bool.not_eq_true', List.isEmpty_eq_false_iff, List.all_eq_true] at h
    exact .inl ⟨rfl, h.1, h.2⟩
  · split
    · exact .inr (.inl rfl)
    · split
      · rename_i h
        simp only [Bool.and_eq_true, Bool.not_eq_true', decide_eq_true_eq] at h
        exact .inr (.inr ⟨rfl, Quoted.fits_literal h.1.1 h.1.2 h.2⟩)
      · exact .inr (.inl rfl)

theorem exists_keyChars (name : String) : ∃ c cs, keyChars name = c :: cs ∧ IsStart c ∧ c ≠ '[' := by
  rcases keyChars_cases name with ⟨h, hne, hbare⟩ | h | ⟨h, -⟩
  · obtain ⟨c, cs, hcs⟩ := List.exists_cons_of_ne_nil hne
    have hc : isBareKeyChar c = true := hbare c (by simp [hcs])
    refine ⟨c, cs, by rw [h, hcs], isStart_of_isBareKeyChar hc, ?_⟩
    rintro rfl
    exact absurd hc (by decide)
  · exact ⟨'"', _, h, by decide, by decide⟩
  · exact ⟨'\'', _, h, by decide, by decide⟩

theorem name?_keyChars (name : String) (hrest : ∀ c ∈ rest.head?, isBareKeyChar c = false) :
    name? (keyChars name ++ rest) = some (name, rest) := by
  rcases keyChars_cases name with ⟨h, hne, hbare⟩ | h | ⟨h, hfits⟩
  · have hspan : (name.toList ++ rest).span isBareKeyChar = (name.toList, rest) := by
      rw [span_append_of_head _ hrest, List.takeWhile_eq_self_iff.mpr hbare, List.dropWhile_eq_nil_iff.mpr hbare]
      rfl
    obtain ⟨c, cs, hcs⟩ := List.exists_cons_of_ne_nil hne
    have hc : isBareKeyChar c = true := hbare c (by simp [hcs])
    have hdouble : c ≠ '"' := by rintro rfl; exact absurd hc (by decide)
    have hsingle : c ≠ '\'' := by rintro rfl; exact absurd hc (by decide)
    rw [h, name?.eq_3 _ (fun r => append_ne_cons hcs hdouble) (fun r => append_ne_cons hcs hsingle), hspan]
    simp [hne]
  · rw [h, List.cons_append, List.append_assoc, name?.eq_1, List.singleton_append, Quoted.basic?_escapeChars]
    simp
  · rw [h, List.cons_append, List.append_assoc, name?.eq_2, List.singleton_append, Quoted.literal?_append hfits]
    simp

/-- The names of a path, with points between them. -/
def pathChars (path : List String) : List Char := ['.'].intercalate (path.map keyChars)

theorem pathChars_cons (name : String) {path : List String} (h : path ≠ []) :
    pathChars (name :: path) = keyChars name ++ '.' :: pathChars path := by
  obtain ⟨next, path, rfl⟩ := List.exists_cons_of_ne_nil h
  simp [pathChars, List.intercalate]

theorem exists_pathChars {path : List String} (h : path ≠ []) :
    ∃ c cs, pathChars path = c :: cs ∧ IsStart c ∧ c ≠ '[' := by
  obtain ⟨name, path, rfl⟩ := List.exists_cons_of_ne_nil h
  obtain ⟨c, cs, hcs, hc⟩ := exists_keyChars name
  by_cases hp : path = []
  · subst hp
    exact ⟨c, cs, by simpa [pathChars] using hcs, hc⟩
  · exact ⟨c, _, by rw [pathChars_cons name hp, hcs]; rfl, hc⟩

theorem skipBlanks_pathChars {path : List String} (h : path ≠ []) :
    skipBlanks (pathChars path ++ rest) = pathChars path ++ rest := by
  obtain ⟨c, cs, hcs, hc, -⟩ := exists_pathChars h
  rw [hcs]
  exact hc.skipBlanks

/-- A path is read up to something that is neither part of a name nor a point. -/
theorem key?_pathChars {path : List String} (hne : path ≠ []) (hfuel : path.length ≤ fuel)
    (hbare : ∀ c ∈ rest.head?, isBareKeyChar c = false) (hpoint : ∀ c ∈ (skipBlanks rest).head?, c ≠ '.') :
    key? fuel (pathChars path ++ rest) = some (path, skipBlanks rest) := by
  induction path generalizing fuel with
  | nil => exact absurd rfl hne
  | cons name path ih =>
    obtain ⟨fuel, rfl⟩ : ∃ n, fuel = n + 1 := ⟨fuel - 1, by simp at hfuel; omega⟩
    rw [key?, skipBlanks_pathChars (by simp)]
    by_cases hp : path = []
    · subst hp
      have hsingle : pathChars [name] = keyChars name := by simp [pathChars]
      rw [hsingle, name?_keyChars name hbare, Option.bind_eq_bind, Option.bind_some]
      simp only
      split
      · rename_i heq
        rw [heq] at hpoint
        exact absurd rfl (hpoint '.' rfl)
      · rfl
    · have hpoint : skipBlanks ('.' :: (pathChars path ++ rest)) = '.' :: (pathChars path ++ rest) := rfl
      have ih : key? fuel (pathChars path ++ rest) = some (path, skipBlanks rest) := ih hp (by simp at hfuel; omega)
      rw [pathChars_cons name hp, List.append_assoc, List.cons_append, name?_keyChars name (by simp; decide)]
      simp only [Option.bind_eq_bind, Option.bind_some, hpoint, ih]
      rfl

/-- A name with its equals sign. -/
theorem keyEquals?_keyChars (name : String) (cs : List Char) :
    keyEquals? (keyChars name ++ (" = ".toList ++ cs)) = some ([name], skipBlanks cs) := by
  have hsingle : keyChars name = pathChars [name] := by simp [pathChars]
  have hlen : [name].length ≤ (keyChars name ++ (" = ".toList ++ cs)).length := by
    simp
    omega
  have hpoint : ∀ c ∈ (skipBlanks (" = ".toList ++ cs)).head?, c ≠ '.' := by
    intro c hc
    cases hc
    decide
  have hkey := key?_pathChars (by simp) hlen (by simp; decide) hpoint
  rw [← hsingle] at hkey
  rw [keyEquals?, hkey]
  rfl

/-! Values without arrays -/

/-- What may follow a value. -/
def Ends (rest : List Char) : Prop := ∀ c ∈ rest.head?, c = '\n' ∨ c = ',' ∨ c = ']'

theorem Ends.cons (h : c = '\n' ∨ c = ',' ∨ c = ']') : Ends (c :: rest) := by
  rintro _ ⟨⟩
  exact h

theorem Ends.no_quote (h : Ends rest) : ∀ c ∈ rest.head?, c ≠ '"' ∧ c ≠ '\'' := by
  intro c hc
  rcases h c hc with rfl | rfl | rfl <;> decide

theorem Ends.no_atom (h : Ends rest) : ∀ c ∈ rest.head?, Scalar.isAtomChar c = false ∧ c ≠ ' ' := by
  intro c hc
  rcases h c hc with rfl | rfl | rfl <;> decide

/-- The text of a value without quotes. -/
structure Atom (v : Toml) (cs : List Char) : Prop where
  ne : cs ≠ []
  chars : ∀ c ∈ cs, Scalar.isAtomChar c = true
  read : Scalar.ofAtom? cs = some v

theorem atom_int {i : Int} (h : Scalar.inRange i = true) : Atom (.int i) (Decimal.intText i).toList where
  ne := by simp [Scalar.intText_toList, Decimal.digits_ne_nil]
  chars := (Scalar.isNumeral_intText i).isAtomChar
  read := Scalar.ofAtom?_intText h

theorem atom_float {x : Binary64} (h : x.IsCanonical) : Atom (.float x) x.text where
  ne := by
    intro he
    have := Scalar.ofAtom?_text h
    rw [he] at this
    cases this
  chars := Scalar.isAtomChar_of_mem_text h
  read := Scalar.ofAtom?_text h

theorem atom_bool (b : Bool) : Atom (.bool b) (if b then "true" else "false").toList := by
  cases b <;> exact ⟨by decide, by decide, rfl⟩

theorem value?_atom (h : Atom v cs) (hrest : Ends rest) : value? (fuel + 1) depth (cs ++ rest) = some (v, rest) := by
  obtain ⟨c, r, hcs⟩ := List.exists_cons_of_ne_nil h.ne
  have hc : Scalar.isAtomChar c = true := h.chars c (by simp [hcs])
  have hno : ∀ d, Scalar.isAtomChar d = false → ∀ r', cs ++ rest ≠ d :: r' := by
    intro d hd r'
    apply append_ne_cons hcs
    rintro rfl
    rw [hd] at hc
    cases hc
  have hquoted : Quoted.read? (cs ++ rest) = none :=
    Quoted.read?.eq_5 _ (fun r => hno '"' rfl _) (fun r => hno '\'' rfl _) (fun r => hno '"' rfl _)
      (fun r => hno '\'' rfl _)
  rw [value?.eq_6 _ _ _ (fun r => hno '[' rfl r) (fun r => hno '\x7b' rfl r), hquoted]
  simp only
  rw [Scalar.read?_append h.chars hrest.no_atom, h.read]
  rfl

theorem exists_quote (s : String) : ∃ c cs, quote s = c :: cs ∧ (c = '"' ∨ c = '\'') := by
  unfold quote
  cases TextForm.of (.of s.toList) with
  | basic | longBasic => exact ⟨'"', _, rfl, .inl rfl⟩
  | literal | longLiteral => exact ⟨'\'', _, rfl, .inr rfl⟩

theorem value?_quote (s : String) (hrest : Ends rest) :
    value? (fuel + 1) depth (quote s ++ rest) = some (.str s, rest) := by
  obtain ⟨c, cs, hcs, hc⟩ := exists_quote s
  have hno : ∀ d r, d ≠ '"' → d ≠ '\'' → quote s ++ rest ≠ d :: r := by
    intro d r hdouble hsingle
    apply append_ne_cons hcs
    rcases hc with rfl | rfl
    · exact hdouble.symm
    · exact hsingle.symm
  rw [value?.eq_6 _ _ _ (fun r => hno '[' r (by decide) (by decide)) (fun r => hno '\x7b' r (by decide) (by decide)),
    Quoted.read?_quote s hrest.no_quote]

/-! Arrays -/

/-- A value that stands in a line or in an array, at most `depth` arrays deep. -/
inductive Inline : Nat → Toml → Prop
  | str {depth : Nat} (s : String) : Inline depth (.str s)
  | int {depth : Nat} {i : Int} (h : Scalar.inRange i = true) : Inline depth (.int i)
  | float {depth : Nat} {x : Binary64} (h : x.IsCanonical) : Inline depth (.float x)
  | bool {depth : Nat} (b : Bool) : Inline depth (.bool b)
  | arr {depth : Nat} {vs : List Toml} (h : ∀ v ∈ vs, Inline depth v) : Inline (depth + 1) (.arr vs)

theorem Atom.exists_start (h : Atom v cs) : ∃ c r, cs = c :: r ∧ IsStart c := by
  obtain ⟨c, r, rfl⟩ := List.exists_cons_of_ne_nil h.ne
  exact ⟨c, r, rfl, isStart_of_isAtomChar (h.chars c (by simp))⟩

theorem Inline.exists_start (h : Inline depth v) (level : Nat) : ∃ c cs, chars level v = c :: cs ∧ IsStart c := by
  cases h with
  | str s =>
    obtain ⟨c, cs, hcs, hc⟩ := exists_quote s
    refine ⟨c, cs, by rw [chars, hcs], ?_⟩
    rcases hc with rfl | rfl <;> decide
  | int h => rw [chars]; exact (atom_int h).exists_start
  | float h => rw [chars]; exact (atom_float h).exists_start
  | bool b => rw [chars]; exact (atom_bool b).exists_start
  | @arr _ vs _ =>
    rcases vs with _ | ⟨v, _ | ⟨w, vs⟩⟩
    · exact ⟨'[', _, rfl, by decide⟩
    · exact ⟨'[', _, by rw [chars]; rfl, by decide⟩
    · exact ⟨'[', _, by rw [chars]; rfl, by decide⟩

/-- The value is read wherever it stands. -/
def IsRead (depth : Nat) (v : Toml) : Prop := ∀ (level fuel : Nat) (rest : List Char),
  (chars level v).length ≤ fuel → Ends rest → value? fuel depth (chars level v ++ rest) = some (v, rest)

theorem items?_chars (hv : Inline depth v) (hread : IsRead depth v) (hfuel : (chars level v).length ≤ fuel)
    (hrest : Ends rest) : items? (fuel + 1) depth (chars level v ++ rest) = (do
      match ← skip false rest with
      | ']' :: rest => return ([v], rest)
      | ',' :: r =>
        let (vs, rest) ← items? fuel depth (← skip false r)
        return (v :: vs, rest)
      | _ => none) := by
  obtain ⟨c, cs, hcs, hc⟩ := hv.exists_start level
  have hno : ∀ r, chars level v ++ rest ≠ ']' :: r := fun r => append_ne_cons hcs hc.2.2.2.2
  rw [items?.eq_3 _ _ _ hno, hread level fuel rest hfuel hrest]
  rfl

/-- The items that stand one a line, with the bracket behind them. -/
theorem items?_arrayLines {vs : List Toml} (hv : ∀ v ∈ vs, Inline depth v ∧ IsRead depth v) (level : Nat) (rest : List Char)
    (hfuel : (arrayLines level vs).length + 1 ≤ fuel) : ∃ cs,
    skip false (arrayLines level vs ++ (List.replicate (4 * level) ' ' ++ ']' :: rest)) = some cs ∧
    items? fuel depth cs = some (vs, rest) := by
  induction vs generalizing fuel with
  | nil =>
    obtain ⟨fuel, rfl⟩ : ∃ n, fuel = n + 1 := ⟨fuel - 1, by omega⟩
    exact ⟨']' :: rest, skip_indent _ _, items?.eq_2 _ _ _⟩
  | cons v vs ih =>
    obtain ⟨⟨hinline, hread⟩, hmore⟩ := List.forall_mem_cons.mp hv
    obtain ⟨fuel, rfl⟩ : ∃ n, fuel = n + 1 := ⟨fuel - 1, by omega⟩
    simp only [arrayLines, List.length_append, List.length_cons] at hfuel
    obtain ⟨cs, hskip, hitems⟩ := ih hmore (show (arrayLines level vs).length + 1 ≤ fuel by omega)
    let after := ',' :: '\n' :: (arrayLines level vs ++ (List.replicate (4 * level) ' ' ++ ']' :: rest))
    have htext : arrayLines level (v :: vs) ++ (List.replicate (4 * level) ' ' ++ ']' :: rest) =
        List.replicate (4 * (level + 1)) ' ' ++ (chars (level + 1) v ++ after) := by
      simp [arrayLines, after]
    have hcomma : skip false after = some after := IsStart.skip (by decide)
    obtain ⟨c, r, hcs, hc⟩ := hinline.exists_start (level + 1)
    refine ⟨chars (level + 1) v ++ after, ?_, ?_⟩
    · rw [htext, skip_indent, hcs]
      exact hc.skip
    · rw [items?_chars hinline hread (by omega) (.cons (by decide)), hcomma]
      simp only [after, Option.bind_eq_bind, Option.bind_some, skip.eq_2, hskip, hitems]
      rfl

theorem isRead_atom (h : Atom v cs) (hcs : ∀ level, chars level v = cs) : IsRead depth v := by
  intro level fuel rest hfuel hrest
  rw [hcs] at hfuel ⊢
  have hpos := List.length_pos_of_ne_nil h.ne
  obtain ⟨fuel, rfl⟩ : ∃ n, fuel = n + 1 := ⟨fuel - 1, by omega⟩
  exact value?_atom h hrest

theorem isRead_str (s : String) : IsRead depth (.str s) := by
  intro level fuel rest hfuel hrest
  obtain ⟨c, cs, hcs, -⟩ := exists_quote s
  rw [chars] at hfuel ⊢
  obtain ⟨fuel, rfl⟩ : ∃ n, fuel = n + 1 := ⟨fuel - 1, by simp [hcs] at hfuel; omega⟩
  exact value?_quote s hrest

theorem isRead_arr {vs : List Toml} (h : ∀ v ∈ vs, Inline depth v ∧ IsRead depth v) : IsRead (depth + 1) (.arr vs) := by
  intro level fuel rest hfuel hrest
  rcases vs with _ | ⟨v, _ | ⟨w, vs⟩⟩
  · obtain ⟨fuel, rfl⟩ : ∃ n, fuel = n + 2 := ⟨fuel - 2, by simp [chars] at hfuel; omega⟩
    have hskip : skip false (']' :: rest) = some (']' :: rest) :=
      skip_cons rfl (by decide) (by decide) (by decide)
    have htext : chars level (.arr []) ++ rest = '[' :: ']' :: rest := by simp [chars]
    rw [htext, value?.eq_3, hskip]
    rfl
  · obtain ⟨hinline, hread⟩ := h v (by simp)
    have hlen : (chars level (.arr [v])).length = (chars level v).length + 2 := by simp [chars]
    obtain ⟨fuel, rfl⟩ : ∃ n, fuel = n + 2 := ⟨fuel - 2, by omega⟩
    have htext : chars level (.arr [v]) ++ rest = '[' :: (chars level v ++ ']' :: rest) := by simp [chars]
    have hclose : skip false (']' :: rest) = some (']' :: rest) :=
      skip_cons rfl (by decide) (by decide) (by decide)
    have hends : Ends (']' :: rest) := .cons (by decide)
    have hitems := items?_chars hinline hread (show (chars level v).length ≤ fuel by omega) hends
    rw [hclose] at hitems
    obtain ⟨c, cs, hcs, hc⟩ := hinline.exists_start level
    have hskip : skip false (chars level v ++ ']' :: rest) = some (chars level v ++ ']' :: rest) := by
      rw [hcs]
      exact hc.skip
    rw [htext, value?.eq_3, hskip]
    simp only [Option.bind_eq_bind, Option.bind_some, hitems]
    rfl
  · have hlen : (chars level (.arr (v :: w :: vs))).length =
        (arrayLines level (v :: w :: vs)).length + 4 * level + 3 := by
      simp [chars]
      omega
    obtain ⟨fuel, rfl⟩ : ∃ n, fuel = n + 1 := ⟨fuel - 1, by omega⟩
    have htext : chars level (.arr (v :: w :: vs)) ++ rest = '[' :: '\n' ::
        (arrayLines level (v :: w :: vs) ++ (List.replicate (4 * level) ' ' ++ ']' :: rest)) := by simp [chars]
    obtain ⟨cs, hskip, hitems⟩ := items?_arrayLines h level rest (show _ ≤ fuel by omega)
    rw [htext, value?.eq_3, skip.eq_2, hskip]
    simp only [Option.bind_eq_bind, Option.bind_some, hitems]
    rfl

/-- A value in a line or in an array is read as it was written. -/
theorem Inline.isRead (h : Inline depth v) : IsRead depth v := by
  induction h with
  | str s => exact isRead_str s
  | int h => exact isRead_atom (atom_int h) fun level => by rw [chars]
  | float h => exact isRead_atom (atom_float h) fun level => by rw [chars]
  | bool b => exact isRead_atom (atom_bool b) fun level => by rw [chars]
  | arr h ih => exact isRead_arr fun v hv => ⟨h v hv, ih v hv⟩

end ProxyWatch.Toml
