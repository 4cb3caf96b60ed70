import ProxyWatch.Proofs.Config
import ProxyWatch.Proofs.Text.Run
import ProxyWatch.RequestUri

/-! The grammar of request uris: which texts are read as an authority, as a path with a query, and as the whole. What
the reader keeps of an authority while it goes along is what can be said of the text that it has read. -/
namespace ProxyWatch.RequestUri

/-! The grammar -/

/-- The part of an authority that a text ends in: what stands behind the last at sign or closing bracket. -/
def part (cs : List Char) : List Char := (cs.reverse.takeWhile fun c => c != '@' && c != ']').reverse

/-- A character that may follow a text in an authority. -/
structure Fits (before : List Char) (c : Char) : Prop where
  kind : isPlain c = true ∨ c = '%'
  colon : c = ':' → (part before).count ':' < maxColons
  opening : c = '[' → '[' ∉ before ∧ '%' ∉ part before
  closing : c = ']' → '[' ∈ before ∧ ']' ∉ before

/-- User information, each closed by an at sign, then a host and a port: brackets come once and in a pair, and behind
the user information and the brackets there is no percent sign and one colon at most. -/
structure IsAuthority (cs : List Char) : Prop where
  inside : ∀ c ∈ cs, isAuthorityEnd c = false
  fits : ∀ before c after, cs = before ++ c :: after → Fits before c
  paired : '[' ∈ cs → ']' ∈ cs
  host : cs.getLast? ≠ some '@'
  port : (part cs).count ':' ≤ 1 ∧ '%' ∉ part cs

/-- What may follow an authority: nothing, or what begins a path, a query or a fragment. -/
def IsBehind (cs : List Char) : Prop := ∀ c ∈ cs.head?, isAuthorityEnd c = true

/-- A query with a fragment behind it. -/
def IsQuery (cs : List Char) : Prop :=
  ∃ query fragment, cs = query ++ fragment ∧ (∀ c ∈ query, isQueryChar c = true) ∧ ∀ c ∈ fragment.head?, c = '#'

/-- A path with what may follow it: a fragment, or a query with a fragment behind it. -/
def IsPath (cs : List Char) : Prop :=
  ∃ path behind, cs = path ++ behind ∧ (∀ c ∈ path, isPathChar c = true) ∧
    ((∀ c ∈ behind.head?, c = '#') ∨ ∃ query, behind = '?' :: query ∧ IsQuery query)

/-- An authority that isn't empty, and what follows it. -/
def IsResource (cs : List Char) : Prop :=
  ∃ authority rest, cs = authority ++ rest ∧ IsAuthority authority ∧ authority ≠ [] ∧ IsBehind rest ∧ IsPath rest

/-- A uri with a scheme. -/
def IsAbsolute (cs : List Char) : Prop :=
  ∃ scheme rest, cs = scheme ++ ':' :: '/' :: '/' :: rest ∧ (∀ c ∈ scheme, Url.isSchemeChar c = true) ∧
    scheme.length ≤ maxScheme ∧ IsResource rest

/-- A request uri that is no path: with a scheme, or an authority alone, and not too long. -/
def IsFull (cs : List Char) : Prop := (String.ofList cs).utf8ByteSize ≤ maxBytes ∧ (IsAbsolute cs ∨ IsAuthority cs)

variable {cs before a rest name : List Char} {c : Char} {s : AuthorityScan} {ε α β : Type}

/-! Reading an authority -/

/-- What has been kept of an authority that was read so far. -/
def state (cs : List Char) : AuthorityScan where
  colons := (part cs).count ':'
  opened := decide ('[' ∈ cs)
  closed := decide (']' ∈ cs)
  percent := decide ('%' ∈ part cs)
  atEnd := cs.getLast? == some '@'

theorem part_concat : part (cs ++ [c]) = if c = '@' ∨ c = ']' then [] else part cs ++ [c] := by
  rw [part, List.reverse_append, List.reverse_singleton, List.singleton_append, List.takeWhile_cons]
  by_cases h : c = '@' ∨ c = ']'
  · rw [if_pos h, if_neg (by rcases h with rfl | rfl <;> decide)]
    rfl
  · rw [if_neg h, if_pos (by simpa [not_or] using h), List.reverse_cons]
    rfl

/-- A character that fits is taken, and what is kept is what can be said of the longer text. -/
theorem next_of_fits (h : Fits cs c) : (state cs).next c = .ok (state (cs ++ [c])) := by
  unfold AuthorityScan.next
  split
  · have hcolon : (state cs).colons < maxColons := h.colon rfl
    rw [if_pos hcolon]
    simp [state, part_concat]
  · obtain ⟨hopened, hpercent⟩ := h.opening rfl
    simp [state, part_concat, hopened, hpercent]
  · obtain ⟨hopened, hclosed⟩ := h.closing rfl
    simp [state, part_concat, hopened, hclosed]
  · simp [state, part_concat]
  · simp [state, part_concat]
  · rename_i hcolon hopen hclose hat hpercent
    have hpart : part (cs ++ [c]) = part cs ++ [c] := by
      rw [part_concat, if_neg fun he => he.elim hat hclose]
    rw [if_pos (h.kind.resolve_right hpercent)]
    simp [state, hpart, Ne.symm hopen, Ne.symm hclose, Ne.symm hpercent, show c ≠ '@' from hat,
      show c ≠ ':' from hcolon]

theorem fits_of_next (h : (state cs).next c = .ok s) : Fits cs c := by
  unfold AuthorityScan.next at h
  split at h
  · split at h
    · rename_i hcolon
      exact ⟨by decide, fun _ => hcolon, nofun, nofun⟩
    · cases h
  · split at h
    · cases h
    · rename_i hopen
      exact ⟨by decide, nofun, fun _ => by simpa [state, and_comm] using hopen, nofun⟩
  · split at h
    · cases h
    · rename_i hclose
      exact ⟨by decide, nofun, nofun, fun _ => by simpa [state] using hclose⟩
  · exact ⟨by decide, nofun, nofun, nofun⟩
  · exact ⟨by decide, nofun, nofun, nofun⟩
  · rename_i hcolon hopen hclose hat hpercent
    split at h
    · rename_i hplain
      exact ⟨.inl hplain, fun he => absurd he hcolon, fun he => absurd he hopen, fun he => absurd he hclose⟩
    · cases h

/-- All characters of a text fit, behind another one. -/
def AllFit (before cs : List Char) : Prop := ∀ b c after, cs = b ++ c :: after → Fits (before ++ b) c

theorem allFit_cons : AllFit before (c :: cs) ↔ Fits before c ∧ AllFit (before ++ [c]) cs := by
  constructor
  · intro h
    refine ⟨by simpa using h [] c cs rfl, fun b d after he => ?_⟩
    simpa using h (c :: b) d after (by rw [he]; rfl)
  · rintro ⟨hc, h⟩ b d after he
    cases b with
    | nil =>
      cases he
      simpa using hc
    | cons x b =>
      cases he
      simpa using h b d after rfl

theorem readAuthority_stop (hb : IsBehind cs) :
    readAuthority s cs = if s.isSound then .ok ([], cs) else .error .invalidAuthority := by
  cases cs with
  | nil => rw [readAuthority]
  | cons c cs => rw [readAuthority, if_pos (hb c rfl)]

theorem readAuthority_cons (hc : isAuthorityEnd c = false) : readAuthority s (c :: cs) =
    s.next c >>= fun s' => readAuthority s' cs >>= fun x => .ok (c :: x.1, x.2) := by
  rw [readAuthority, hc]
  rfl

/-- What may be read of a text behind another one: a front of it that fits and ends where an authority does. -/
structure IsFront (before a rest : List Char) : Prop where
  inside : ∀ c ∈ a, isAuthorityEnd c = false
  fits : AllFit before a
  behind : IsBehind rest
  sound : (state (before ++ a)).isSound = true

theorem isFront_nil : IsFront before [] rest ↔ IsBehind rest ∧ (state before).isSound = true := by
  constructor
  · intro h
    exact ⟨h.behind, by simpa using h.sound⟩
  · rintro ⟨hb, hs⟩
    exact ⟨nofun, fun b c after he => by simp at he, hb, by simpa using hs⟩

theorem isFront_cons : IsFront before (c :: a) rest ↔
    isAuthorityEnd c = false ∧ Fits before c ∧ IsFront (before ++ [c]) a rest := by
  constructor
  · intro h
    obtain ⟨hc, hin⟩ := List.forall_mem_cons.mp h.inside
    obtain ⟨hfits, hall⟩ := allFit_cons.mp h.fits
    exact ⟨hc, hfits, hin, hall, h.behind, by simpa using h.sound⟩
  · rintro ⟨hc, hfits, h⟩
    exact ⟨List.forall_mem_cons.mpr ⟨hc, h.inside⟩, allFit_cons.mpr ⟨hfits, h.fits⟩, h.behind, by simpa using h.sound⟩

theorem readAuthority_stop_eq_ok (hb : IsBehind cs) :
    readAuthority (state before) cs = .ok (a, rest) ↔ cs = a ++ rest ∧ IsFront before a rest := by
  rw [readAuthority_stop hb]
  constructor
  · intro h
    split at h
    · rename_i hs
      cases h
      exact ⟨rfl, isFront_nil.mpr ⟨hb, hs⟩⟩
    · cases h
  · rintro ⟨rfl, h⟩
    cases a with
    | nil => rw [if_pos (isFront_nil.mp h).2, List.nil_append]
    | cons c a => cases (hb c rfl).symm.trans (isFront_cons.mp h).1

theorem readAuthority_eq_ok :
    readAuthority (state before) cs = .ok (a, rest) ↔ cs = a ++ rest ∧ IsFront before a rest := by
  -- Along the text that is left: what was read of it goes over into `before`.
  induction cs generalizing before a with
  | nil => exact readAuthority_stop_eq_ok fun c hc => by cases hc
  | cons c cs ih =>
    cases hc : isAuthorityEnd c with
    | true => exact readAuthority_stop_eq_ok fun d hd => by cases hd; exact hc
    | false =>
      rw [readAuthority_cons hc, bind_eq_ok]
      constructor
      · rintro ⟨s, hs, h⟩
        obtain ⟨⟨a', rest'⟩, hread, he⟩ := bind_eq_ok.mp h
        cases he
        have hfits := fits_of_next hs
        cases hs.symm.trans (next_of_fits hfits)
        obtain ⟨rfl, hfront⟩ := ih.mp hread
        exact ⟨rfl, isFront_cons.mpr ⟨hc, hfits, hfront⟩⟩
      · rintro ⟨he, h⟩
        cases a with
        | nil =>
          cases he
          cases hc.symm.trans ((isFront_nil.mp h).1 c rfl)
        | cons d a =>
          cases he
          obtain ⟨-, hfits, hfront⟩ := isFront_cons.mp h
          refine ⟨_, next_of_fits hfits, ?_⟩
          rw [ih.mpr ⟨rfl, hfront⟩]
          rfl

/-- What is kept of a text that fits is sound if the text ends as an authority can. -/
theorem isSound_iff (h : AllFit [] a) : (state a).isSound = true ↔ ('[' ∈ a → ']' ∈ a) ∧ (part a).count ':' ≤ 1 ∧
    a.getLast? ≠ some '@' ∧ '%' ∉ part a := by
  have hclosed : ']' ∈ a → '[' ∈ a := fun hc => by
    obtain ⟨b, after, rfl⟩ := List.append_of_mem hc
    exact List.mem_append_left _ ((h b ']' after rfl).closing rfl).1
  simp only [AuthorityScan.isSound, Bool.and_eq_true, beq_iff_eq, decide_eq_true_eq, Bool.not_eq_true', and_assoc]
  simp only [state, decide_eq_decide, beq_eq_false_iff_ne, decide_eq_false_iff_not]
  tauto

theorem isFront_iff : IsFront [] a rest ↔ IsAuthority a ∧ IsBehind rest := by
  constructor
  · intro h
    obtain ⟨hpaired, hcolons, hhost, hpercent⟩ := (isSound_iff h.fits).mp h.sound
    exact ⟨⟨h.inside, h.fits, hpaired, hhost, hcolons, hpercent⟩, h.behind⟩
  · rintro ⟨ha, hb⟩
    exact ⟨ha.inside, ha.fits, hb, (isSound_iff ha.fits).mpr ⟨ha.paired, ha.port.1, ha.host, ha.port.2⟩⟩

/-- An authority is read up to its end. -/
theorem readAuthority_iff : readAuthority {} cs = .ok (a, rest) ↔ cs = a ++ rest ∧ IsAuthority a ∧ IsBehind rest := by
  have hempty : ({} : AuthorityScan) = state [] := rfl
  rw [hempty, readAuthority_eq_ok, isFront_iff]

/-! Reading the rest -/

theorem map_eq_ok {x : Except ε α} {f : α → β} : (∃ b, x.map f = .ok b) ↔ ∃ y, x = .ok y := by
  cases x <;> simp [Except.map]

theorem isQuery_cons (hc : c ≠ '#') : IsQuery (c :: cs) ↔ isQueryChar c = true ∧ IsQuery cs := by
  constructor
  · rintro ⟨query, fragment, he, hq, hf⟩
    cases query with
    | nil =>
      cases he
      exact absurd (hf c rfl) hc
    | cons d query =>
      cases he
      obtain ⟨hd, hq⟩ := List.forall_mem_cons.mp hq
      exact ⟨hd, query, fragment, rfl, hq, hf⟩
  · rintro ⟨hd, query, fragment, rfl, hq, hf⟩
    exact ⟨c :: query, fragment, rfl, List.forall_mem_cons.mpr ⟨hd, hq⟩, hf⟩

theorem readQuery_iff : (∃ q, readQuery cs = .ok q) ↔ IsQuery cs := by
  induction cs with
  | nil => exact iff_of_true ⟨[], rfl⟩ ⟨[], [], rfl, nofun, nofun⟩
  | cons c cs ih =>
    unfold readQuery
    by_cases hmark : c = '#'
    · rw [if_pos hmark]
      exact iff_of_true ⟨[], rfl⟩ ⟨[], c :: cs, rfl, nofun, fun d hd => by cases hd; exact hmark⟩
    · rw [if_neg hmark, isQuery_cons hmark, ← ih]
      by_cases hc : isQueryChar c = true
      · rw [if_pos hc, map_eq_ok]
        simp [hc]
      · simp [hc]

theorem isPath_cons (hc : c ≠ '#') (hq : c ≠ '?') : IsPath (c :: cs) ↔ isPathChar c = true ∧ IsPath cs := by
  constructor
  · rintro ⟨path, behind, he, hp, hb⟩
    cases path with
    | nil =>
      cases he
      rcases hb with hf | ⟨query, he, -⟩
      · exact absurd (hf c rfl) hc
      · cases he
        exact absurd rfl hq
    | cons d path =>
      cases he
      obtain ⟨hd, hp⟩ := List.forall_mem_cons.mp hp
      exact ⟨hd, path, behind, rfl, hp, hb⟩
  · rintro ⟨hd, path, behind, rfl, hp, hb⟩
    exact ⟨c :: path, behind, rfl, List.forall_mem_cons.mpr ⟨hd, hp⟩, hb⟩

theorem isPath_query : IsPath ('?' :: cs) ↔ IsQuery cs := by
  constructor
  · rintro ⟨path, behind, he, hp, hb⟩
    cases path with
    | nil =>
      cases he
      rcases hb with hf | ⟨query, he, hq⟩
      · exact absurd (hf '?' rfl) (by decide)
      · cases he
        exact hq
    | cons d path =>
      cases he
      exact absurd (hp '?' List.mem_cons_self) (by decide)
  · intro h
    exact ⟨[], '?' :: cs, rfl, nofun, .inr ⟨cs, rfl, h⟩⟩

theorem readPath_iff : (∃ p, readPath cs = .ok p) ↔ IsPath cs := by
  induction cs with
  | nil => exact iff_of_true ⟨[], rfl⟩ ⟨[], [], rfl, nofun, .inl nofun⟩
  | cons c cs ih =>
    unfold readPath
    by_cases hmark : c = '#'
    · rw [if_pos hmark]
      exact iff_of_true ⟨[], rfl⟩ ⟨[], c :: cs, rfl, nofun, .inl fun d hd => by cases hd; exact hmark⟩
    · by_cases hquery : c = '?'
      · rw [if_neg hmark, if_pos hquery, map_eq_ok, hquery, isPath_query, readQuery_iff]
      · rw [if_neg hmark, if_neg hquery, isPath_cons hmark hquery, ← ih]
        by_cases hc : isPathChar c = true
        · rw [if_pos hc, map_eq_ok]
          simp [hc]
        · simp [hc]

/-! Reading the whole -/

/-- A text that begins with what could be a scheme, as far as its characters go. -/
def HasScheme (cs : List Char) : Prop :=
  ∃ name rest, cs = name ++ ':' :: '/' :: '/' :: rest ∧ ∀ c ∈ name, Url.isSchemeChar c = true

theorem readScheme_mark (hs : ∀ c ∈ name, Url.isSchemeChar c = true) (rest : List Char) :
    readScheme (name ++ ':' :: '/' :: '/' :: rest) =
      if name.isEmpty && rest.isEmpty then .ok (none, name ++ ':' :: '/' :: '/' :: rest)
      else if name.length > maxScheme then .error .schemeTooLong
      else .ok (some name, rest) := by
  unfold readScheme
  rw [List.span_eq_takeWhile_dropWhile, takeWhile_append_stop hs rfl, dropWhile_append_stop hs rfl]
  rfl

theorem readScheme_other (h : ¬ HasScheme cs) : readScheme cs = .ok (none, cs) := by
  unfold readScheme
  split
  · rename_i name rest hspan
    rw [List.span_eq_takeWhile_dropWhile, Prod.mk.injEq] at hspan
    refine absurd ⟨name, rest, ?_, fun c hc => ?_⟩ h
    · rw [← hspan.1, ← hspan.2, List.takeWhile_append_dropWhile]
    · rw [← hspan.1] at hc
      exact List.mem_takeWhile_imp hc
  · rfl

theorem scheme_unique {name' rest' : List Char} (hs : ∀ c ∈ name, Url.isSchemeChar c = true)
    (hs' : ∀ c ∈ name', Url.isSchemeChar c = true)
    (h : name ++ ':' :: rest = name' ++ ':' :: rest') : name = name' ∧ rest = rest' := by
  have hname := congrArg (·.takeWhile Url.isSchemeChar) h
  rw [takeWhile_append_stop hs rfl, takeWhile_append_stop hs' rfl] at hname
  cases hname
  exact ⟨rfl, List.tail_eq_of_cons_eq (List.append_cancel_left h)⟩

theorem IsAuthority.not_hasScheme (h : IsAuthority cs) : ¬ HasScheme cs := by
  rintro ⟨name, rest, rfl, -⟩
  cases h.inside '/' (by simp)

theorem isAbsolute_mark (hs : ∀ c ∈ name, Url.isSchemeChar c = true) :
    IsAbsolute (name ++ ':' :: '/' :: '/' :: rest) ↔ name.length ≤ maxScheme ∧ IsResource rest := by
  constructor
  · rintro ⟨scheme, behind, he, hs', hl, hr⟩
    obtain ⟨rfl, hrest⟩ := scheme_unique hs hs' he
    cases hrest
    exact ⟨hl, hr⟩
  · rintro ⟨hl, hr⟩
    exact ⟨name, rest, rfl, hs, hl, hr⟩

theorem readFull_other (h : ¬ HasScheme cs) : (∃ u, readFull cs = .ok u) ↔ IsAuthority cs := by
  have hfull : readFull cs = readAuthority {} cs >>= fun x =>
      if x.2.isEmpty then .ok { authority := x.1 } else .error .invalidFormat := by
    rw [readFull, readScheme_other h]
    rfl
  simp only [hfull, bind_eq_ok]
  constructor
  · rintro ⟨u, ⟨a, rest⟩, hread, hu⟩
    obtain ⟨rfl, ha, -⟩ := readAuthority_iff.mp hread
    cases rest with
    | nil => rwa [List.append_nil]
    | cons c rest => cases hu
  · intro ha
    exact ⟨_, (cs, []), readAuthority_iff.mpr ⟨(List.append_nil cs).symm, ha, nofun⟩, rfl⟩

theorem readFull_mark (hs : ∀ c ∈ name, Url.isSchemeChar c = true) (hl : name.length ≤ maxScheme)
    (hne : ¬ (name = [] ∧ rest = [])) :
    (∃ u, readFull (name ++ ':' :: '/' :: '/' :: rest) = .ok u) ↔ IsResource rest := by
  have hfull : readFull (name ++ ':' :: '/' :: '/' :: rest) = readAuthority {} rest >>= fun x =>
      if x.1.isEmpty then .error .invalidFormat
      else readPath x.2 >>= fun path => .ok { scheme := some name, authority := x.1, path } := by
    rw [readFull, readScheme_mark hs, if_neg (by simpa using hne), if_neg (Nat.not_lt.mpr hl)]
    rfl
  simp only [hfull, bind_eq_ok]
  constructor
  · rintro ⟨u, ⟨a, behind⟩, hread, hu⟩
    obtain ⟨rfl, ha, hb⟩ := readAuthority_iff.mp hread
    cases a with
    | nil => cases hu
    | cons c a =>
      obtain ⟨path, hp, -⟩ := bind_eq_ok.mp hu
      exact ⟨c :: a, behind, rfl, ha, nofun, hb, readPath_iff.mp ⟨path, hp⟩⟩
  · rintro ⟨a, behind, rfl, ha, hne, hb, hp⟩
    obtain ⟨path, hpath⟩ := readPath_iff.mpr hp
    refine ⟨{ scheme := some name, authority := a, path }, (a, behind), readAuthority_iff.mpr ⟨rfl, ha, hb⟩, ?_⟩
    rw [if_neg (by simpa using hne), hpath]
    rfl

theorem readFull_bare : ¬ ∃ u, readFull [':', '/', '/'] = .ok u := by
  rintro ⟨u, h⟩
  cases h

theorem readFull_long (hs : ∀ c ∈ name, Url.isSchemeChar c = true) (hl : maxScheme < name.length) :
    ¬ ∃ u, readFull (name ++ ':' :: '/' :: '/' :: rest) = .ok u := by
  rintro ⟨u, h⟩
  have hne : name ≠ [] := by
    rintro rfl
    cases hl
  rw [readFull, readScheme_mark hs, if_neg (by simp [hne]), if_pos hl] at h
  cases h

/-- A text that is no path is read if it is a uri with a scheme, or an authority. -/
theorem readFull_iff : (∃ u, readFull cs = .ok u) ↔ IsAbsolute cs ∨ IsAuthority cs := by
  -- The two forms exclude each other: an authority has no slash in it.
  by_cases h : HasScheme cs
  · have hauth : ¬ IsAuthority cs := fun ha => ha.not_hasScheme h
    obtain ⟨name, rest, rfl, hs⟩ := h
    rw [or_iff_left hauth, isAbsolute_mark hs]
    by_cases hl : name.length ≤ maxScheme
    · by_cases hne : name = [] ∧ rest = []
      · obtain ⟨rfl, rfl⟩ := hne
        refine iff_of_false readFull_bare fun ⟨_, a, behind, he, _, hne, _⟩ => ?_
        exact hne (List.append_eq_nil_iff.mp he.symm).1
      · rw [readFull_mark hs hl hne, and_iff_right hl]
    · exact iff_of_false (readFull_long hs (Nat.not_le.mp hl)) fun h => hl h.1
  · have habs : ¬ IsAbsolute cs := fun ⟨scheme, rest, he, hs, _⟩ => h ⟨scheme, rest, he, hs⟩
    rw [or_iff_right habs, readFull_other h]

/-- The texts with more than one character that are read, other than paths. -/
theorem parse_iff (hlen : 2 ≤ cs.length) (hslash : cs.head? ≠ some '/') : (∃ u, parse cs = .ok u) ↔ IsFull cs := by
  have hparse : parse cs = if (String.ofList cs).utf8ByteSize > maxBytes then .error .tooLong else readFull cs := by
    match cs with
    | c :: d :: cs =>
      have hc : c ≠ '/' := by simpa using hslash
      unfold parse
      congr 1
      split <;> simp_all
  rw [hparse, IsFull]
  by_cases hsize : (String.ofList cs).utf8ByteSize > maxBytes
  · rw [if_pos hsize]
    refine iff_of_false ?_ fun h => Nat.not_le.mpr hsize h.1
    rintro ⟨_, h⟩
    cases h
  · rw [if_neg hsize, readFull_iff, and_iff_right (Nat.not_lt.mp hsize)]

end ProxyWatch.RequestUri
