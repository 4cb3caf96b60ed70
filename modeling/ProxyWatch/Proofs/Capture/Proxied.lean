import ProxyWatch.Proofs.Capture.Direct
import ProxyWatch.Proofs.Url.Credentials

/-! The arguments of a capture through a proxy. Which of their characters are marks can be read off the template alone.
The url is put in first, so that a mark of the target may be found in it, or begin in it and end in the template. -/
namespace ProxyWatch.CaptureCommand

/-- What a template argument is made of: characters of its own, and gaps for the url of the proxy and for the id of the
target. -/
inductive Piece
  | text (c : Char)
  | urlGap
  | idGap

/-- The pieces of a template argument, from left to right. -/
def pieces : List Char → List Piece
  | [] => []
  | c :: cs =>
    if proxyMark.isPrefixOf (c :: cs) then .urlGap :: pieces (cs.drop (proxyMark.length - 1))
    else if targetMark.isPrefixOf (c :: cs) then .idGap :: pieces (cs.drop (targetMark.length - 1))
    else .text c :: pieces cs
termination_by cs => cs.length
decreasing_by all_goals simp only [List.length_drop, List.length_cons]; omega

def Piece.fill (url id : List Char) : Piece → List Char
  | text c => [c]
  | urlGap => url
  | idGap => id

/-- The text with its gaps filled, all at once. -/
def fill (url id : List Char) (ps : List Piece) : List Char := ps.flatMap (Piece.fill url id)

/-- The arguments with the url of the proxy and the id of the target where the template has marks for them. -/
def filled (c : CaptureCommand) (target url : String) : List String :=
  c.args.map fun arg => String.ofList (fill url.toList target.toList (pieces arg.toList))

/-- No mark of the target begins in the url that is put into an argument, whether it ends in the url or behind it. -/
def KeepsUrl (url arg : List Char) : Prop :=
  ∀ before after, arg = before ++ proxyMark ++ after →
    ∀ part, part <:+ url → part ≠ [] → ¬ targetMark <+: part ++ after

variable {c : Char} {mark value arg url id before after cs part w x y : List Char} {ps : List Piece}
  {gs : List (Option Char)}

/-! Marks -/

theorem proxyMark_eq : proxyMark = ['\x7b', 'p', 'r', 'o', 'x', 'y', '\x7d'] := by decide

theorem targetMark_eq : targetMark = ['\x7b', 't', 'a', 'r', 'g', 'e', 't', '\x7d'] := by decide

/-- A mark has an opening brace in front, and no other one. -/
theorem exists_of_mark (h : mark = proxyMark ∨ mark = targetMark) : ∃ tail, mark = '\x7b' :: tail ∧ '\x7b' ∉ tail := by
  rcases h with rfl | rfl
  · exact ⟨_, proxyMark_eq, by decide⟩
  · exact ⟨_, targetMark_eq, by decide⟩

/-- A word that begins in a text ends in it or goes on behind it. -/
theorem prefix_append_cases (h : w <+: x ++ y) : w <+: x ∨ ∃ rest, rest ≠ [] ∧ w = x ++ rest ∧ rest <+: y := by
  obtain ⟨more, he⟩ := h
  rcases List.append_eq_append_iff.mp he with ⟨a, rfl, rfl⟩ | ⟨a, rfl, rfl⟩
  · exact .inl (List.prefix_append w a)
  · rcases a with - | ⟨c, a⟩
    · exact .inl (by simp)
    · exact .inr ⟨c :: a, List.cons_ne_nil _ _, rfl, List.prefix_append _ _⟩

/-- A mark does not begin in front of a brace and end behind it. -/
theorem mark_prefix_of_append (hm : mark = proxyMark ∨ mark = targetMark) (hx : x ≠ [])
    (h : mark <+: x ++ '\x7b' :: y) : mark <+: x := by
  rcases prefix_append_cases h with h | ⟨rest, hne, he, hrest⟩
  · exact h
  · obtain ⟨tail, htail, hno⟩ := exists_of_mark hm
    obtain ⟨a, x, rfl⟩ := List.exists_cons_of_ne_nil hx
    obtain ⟨b, rest, rfl⟩ := List.exists_cons_of_ne_nil hne
    obtain ⟨rfl, -⟩ := List.cons_prefix_cons.mp hrest
    rw [htail, List.cons_append, List.cons.injEq] at he
    exact absurd (by simp [he.2]) hno

theorem substitute_nil : substitute mark value [] = [] := Pattern.replaceAll_nil

theorem substitute_text (h : ¬ mark <+: c :: cs) :
    substitute mark value (c :: cs) = c :: substitute mark value cs :=
  Pattern.replaceAll_of_none (if_neg fun hp => h (List.isPrefixOf_iff_prefix.mp hp))

theorem substitute_mark (hm : mark ≠ []) : substitute mark value (mark ++ cs) = value ++ substitute mark value cs := by
  obtain ⟨a, tail, rfl⟩ := List.exists_cons_of_ne_nil hm
  refine Pattern.replaceAll_of_some ?_ (by simp)
  simp [Pattern.literal]

/-- A text without the mark stays. -/
theorem substitute_of_not_containsWord (h : containsWord mark cs = false) : substitute mark value cs = cs := by
  induction cs with
  | nil => exact substitute_nil
  | cons c cs ih =>
    obtain ⟨hc, hcs⟩ := Bool.or_eq_false_iff.mp h
    have hno : ¬ mark <+: c :: cs := by
      intro hp
      rw [List.isPrefixOf_iff_prefix.mpr hp] at hc
      cases hc
    rw [substitute_text hno, ih hcs]

/-! The pieces of an argument -/

theorem pieces_nil : pieces [] = [] := by
  rw [pieces]

theorem pieces_urlGap (cs : List Char) : pieces (proxyMark ++ cs) = .urlGap :: pieces cs := by
  rw [proxyMark_eq, List.cons_append, pieces, proxyMark_eq]
  simp

theorem pieces_idGap (cs : List Char) : pieces (targetMark ++ cs) = .idGap :: pieces cs := by
  rw [targetMark_eq, List.cons_append, pieces, proxyMark_eq, targetMark_eq]
  simp

theorem pieces_text (hp : ¬ proxyMark <+: c :: cs) (ht : ¬ targetMark <+: c :: cs) :
    pieces (c :: cs) = .text c :: pieces cs := by
  rw [pieces, if_neg fun h => hp (List.isPrefixOf_iff_prefix.mp h),
    if_neg fun h => ht (List.isPrefixOf_iff_prefix.mp h)]

/-- An argument begins with a mark or with a character of its own. -/
theorem argument_induction {motive : List Char → Prop} (nil : motive [])
    (urlGap : ∀ cs, motive cs → motive (proxyMark ++ cs)) (idGap : ∀ cs, motive cs → motive (targetMark ++ cs))
    (text : ∀ c cs, ¬ proxyMark <+: c :: cs → ¬ targetMark <+: c :: cs → motive cs → motive (c :: cs))
    (cs : List Char) : motive cs := by
  induction hn : cs.length using Nat.strong_induction_on generalizing cs with
  | _ n ih =>
    subst hn
    by_cases hp : proxyMark <+: cs
    · obtain ⟨rest, rfl⟩ := hp
      exact urlGap rest (ih rest.length (by simp [proxyMark_eq]; omega) rest rfl)
    · by_cases ht : targetMark <+: cs
      · obtain ⟨rest, rfl⟩ := ht
        exact idGap rest (ih rest.length (by simp [targetMark_eq]; omega) rest rfl)
      · cases cs with
        | nil => exact nil
        | cons c cs => exact text c cs hp ht (ih cs.length (by simp) cs rfl)

@[simp] theorem fill_nil : fill url id [] = [] := rfl

@[simp] theorem fill_text : fill url id (.text c :: ps) = c :: fill url id ps := rfl

@[simp] theorem fill_urlGap : fill url id (.urlGap :: ps) = url ++ fill url id ps := rfl

@[simp] theorem fill_idGap : fill url id (.idGap :: ps) = id ++ fill url id ps := rfl

theorem fill_append (ps qs : List Piece) : fill url id (ps ++ qs) = fill url id ps ++ fill url id qs :=
  List.flatMap_append

/-- An argument is its pieces with the marks in the gaps. -/
theorem fill_pieces (arg : List Char) : fill proxyMark targetMark (pieces arg) = arg := by
  induction arg using argument_induction with
  | nil => rw [pieces_nil, fill_nil]
  | urlGap cs ih => rw [pieces_urlGap, fill_urlGap, ih]
  | idGap cs ih => rw [pieces_idGap, fill_idGap, ih]
  | text c cs hp ht ih => rw [pieces_text hp ht, fill_text, ih]

/-- The pieces on both sides of a mark are those of the text there. -/
theorem pieces_append_urlGap (before after : List Char) :
    pieces (before ++ proxyMark ++ after) = pieces before ++ .urlGap :: pieces after := by
  obtain ⟨tail, hmark, -⟩ := exists_of_mark (.inl rfl)
  induction before using argument_induction with
  | nil => rw [List.nil_append, pieces_urlGap, pieces_nil, List.nil_append]
  | urlGap cs ih =>
    have hfront : proxyMark ++ cs ++ proxyMark ++ after = proxyMark ++ (cs ++ proxyMark ++ after) := by simp
    rw [hfront, pieces_urlGap, pieces_urlGap, ih, List.cons_append]
  | idGap cs ih =>
    have hfront : targetMark ++ cs ++ proxyMark ++ after = targetMark ++ (cs ++ proxyMark ++ after) := by simp
    rw [hfront, pieces_idGap, pieces_idGap, ih, List.cons_append]
  | text c cs hp ht ih =>
    have hno : ∀ m, (m = proxyMark ∨ m = targetMark) → ¬ m <+: c :: cs → ¬ m <+: c :: (cs ++ proxyMark ++ after) := by
      intro m hm hc h
      rw [List.append_assoc, ← List.cons_append, hmark, List.cons_append] at h
      exact hc (mark_prefix_of_append hm (List.cons_ne_nil _ _) h)
    rw [List.cons_append, List.cons_append, pieces_text (hno _ (.inl rfl) hp) (hno _ (.inr rfl) ht), ih,
      pieces_text hp ht, List.cons_append]

/-- Behind a character of its own the rest of an argument does not complete a mark. -/
theorem not_mark_of_pieces {qs : List Piece} (h : pieces arg = ps ++ .text c :: qs) :
    ¬ targetMark <+: c :: fill proxyMark targetMark qs := by
  induction arg using argument_induction generalizing ps with
  | nil => simp [pieces_nil] at h
  | urlGap cs ih | idGap cs ih =>
    first | rw [pieces_urlGap] at h | rw [pieces_idGap] at h
    rcases ps with - | ⟨p, ps⟩
    · cases h
    · exact ih (List.cons.inj h).2
  | text a cs hp ht ih =>
    rw [pieces_text hp ht] at h
    rcases ps with - | ⟨p, ps⟩
    · cases h
      rwa [fill_pieces]
    · exact ih (List.cons.inj h).2

/-! Putting in the url -/

theorem substitute_proxyMark (arg : List Char) : substitute proxyMark url arg = fill url targetMark (pieces arg) := by
  induction arg using argument_induction with
  | nil => rw [pieces_nil, substitute_nil, fill_nil]
  | urlGap cs ih => rw [pieces_urlGap, substitute_mark (by simp [proxyMark_eq]), ih, fill_urlGap]
  | text c cs hp ht ih => rw [pieces_text hp ht, substitute_text hp, ih, fill_text]
  | idGap cs ih =>
    have hfront : substitute proxyMark url (targetMark ++ cs) = targetMark ++ substitute proxyMark url cs := by
      refine Pattern.replaceAll_append fun z hz hne => if_neg fun hp => ?_
      have hp := List.isPrefixOf_iff_prefix.mp hp
      rw [targetMark_eq, List.suffix_cons_iff] at hz
      rcases hz with rfl | hz
      · simp [proxyMark_eq] at hp
      · obtain ⟨a, z, rfl⟩ := List.exists_cons_of_ne_nil hne
        rw [proxyMark_eq, List.cons_append, List.cons_prefix_cons] at hp
        exact absurd (hz.subset (by simp [← hp.1])) (by decide : '\x7b' ∉ ['t', 'a', 'r', 'g', 'e', 't', '\x7d'])
    rw [pieces_idGap, hfront, ih, fill_idGap]

/-! Putting in the target -/

/-- A text with gaps, filled. -/
def close (id : List Char) (gs : List (Option Char)) : List Char := gs.flatMap fun g => g.elim id ([·])

@[simp] theorem close_nil : close id [] = [] := rfl

@[simp] theorem close_gap : close id (none :: gs) = id ++ close id gs := rfl

@[simp] theorem close_text : close id (some c :: gs) = c :: close id gs := rfl

theorem close_map_some (cs : List Char) : close id (cs.map some ++ gs) = cs ++ close id gs := by
  induction cs with
  | nil => rfl
  | cons c cs ih => rw [List.map_cons, List.cons_append, close_text, ih, List.cons_append]

/-- No mark begins in the text between the gaps. -/
def Clear (gs : List (Option Char)) : Prop :=
  ∀ c rest, some c :: rest <:+ gs → ¬ targetMark <+: c :: close targetMark rest

/-- Text that is found behind a brace stands between the gaps. -/
theorem exists_of_prefix_close (hw : '\x7b' ∉ w) (h : w <+: close targetMark gs) : ∃ rest, gs = w.map some ++ rest := by
  induction w generalizing gs with
  | nil => exact ⟨gs, rfl⟩
  | cons a w ih =>
    rcases gs with - | ⟨- | b, gs⟩
    · simp at h
    · rw [close_gap, targetMark_eq, List.cons_append, List.cons_prefix_cons] at h
      simp [h.1] at hw
    · rw [close_text, List.cons_prefix_cons] at h
      obtain ⟨rfl, h⟩ := h
      obtain ⟨rest, rfl⟩ := ih (fun hb => hw (List.mem_cons_of_mem _ hb)) h
      exact ⟨rest, rfl⟩

/-- A text with gaps begins with one, or with a mark of its own, or with another character. -/
theorem close_induction {motive : List (Option Char) → Prop} (nil : motive [])
    (gap : ∀ gs, motive gs → motive (none :: gs))
    (mark : ∀ gs, motive gs → motive (targetMark.map some ++ gs))
    (text : ∀ c gs, ¬ targetMark <+: c :: close targetMark gs → motive gs → motive (some c :: gs))
    (gs : List (Option Char)) : motive gs := by
  induction hn : gs.length using Nat.strong_induction_on generalizing gs with
  | _ n ih =>
    subst hn
    rcases gs with - | ⟨- | c, gs⟩
    · exact nil
    · exact gap gs (ih gs.length (by simp) gs rfl)
    · by_cases h : targetMark <+: c :: close targetMark gs
      · obtain ⟨tail, hmark, hno⟩ := exists_of_mark (.inr rfl : targetMark = _ ∨ _)
        nth_rewrite 1 [hmark] at h
        obtain ⟨rfl, htail⟩ := List.cons_prefix_cons.mp h
        obtain ⟨rest, rfl⟩ := exists_of_prefix_close hno htail
        have hall : some '\x7b' :: (tail.map some ++ rest) = targetMark.map some ++ rest := by rw [hmark]; rfl
        rw [hall]
        refine mark rest (ih rest.length ?_ rest rfl)
        rw [List.length_cons, List.length_append]
        omega
      · exact text c gs h (ih gs.length (by simp) gs rfl)

theorem substitute_targetMark (cs : List Char) :
    substitute targetMark id (targetMark ++ cs) = id ++ substitute targetMark id cs :=
  substitute_mark (by simp [targetMark_eq])

/-- What is put in beyond the gaps takes the place of a mark each time. -/
theorem exists_length_substitute (id : List Char) (gs : List (Option Char)) :
    ∃ k, (substitute targetMark id (close targetMark gs)).length + k * targetMark.length =
      (close id gs).length + k * id.length := by
  induction gs using close_induction with
  | nil =>
    refine ⟨0, ?_⟩
    rw [close_nil, close_nil, substitute_nil, Nat.zero_mul, Nat.zero_mul]
  | gap gs ih =>
    obtain ⟨k, hk⟩ := ih
    refine ⟨k, ?_⟩
    rw [close_gap, close_gap, substitute_targetMark, List.length_append, List.length_append]
    omega
  | mark gs ih =>
    obtain ⟨k, hk⟩ := ih
    refine ⟨k + 1, ?_⟩
    rw [close_map_some, close_map_some, substitute_targetMark, List.length_append, List.length_append, Nat.add_mul,
      Nat.add_mul]
    omega
  | text c gs h ih =>
    obtain ⟨k, hk⟩ := ih
    refine ⟨k, ?_⟩
    rw [close_text, close_text, substitute_text h, List.length_cons, List.length_cons]
    omega

/-- Only the gaps are filled, unless a mark stands in the text, and then what is put in must be the mark itself. -/
theorem substitute_close_iff :
    substitute targetMark id (close targetMark gs) = close id gs ↔ id = targetMark ∨ Clear gs := by
  induction gs using close_induction with
  | nil =>
    have hclear : Clear [] := by
      intro c rest h
      simp at h
    simp [substitute_nil, hclear]
  | gap gs ih =>
    have hclear : Clear (none :: gs) ↔ Clear gs := by simp [Clear, List.suffix_cons_iff]
    rw [close_gap, close_gap, substitute_targetMark, List.append_right_inj, ih, hclear]
  | text c gs h ih =>
    have hclear : Clear (some c :: gs) ↔ Clear gs := by
      constructor
      · intro hc a rest hs
        exact hc a rest (hs.trans (List.suffix_cons _ _))
      · intro hc a rest hs
        rcases List.suffix_cons_iff.mp hs with he | hs
        · cases he
          exact h
        · exact hc a rest hs
    rw [close_text, close_text, substitute_text h, List.cons.injEq, ih, hclear]
    simp
  | mark gs ih =>
    have hnot : ¬ Clear (targetMark.map some ++ gs) := by
      intro hc
      obtain ⟨tail, hmark, -⟩ := exists_of_mark (.inr rfl : targetMark = _ ∨ _)
      refine hc '\x7b' (tail.map some ++ gs) (by simp [hmark]) ?_
      rw [close_map_some, ← List.cons_append, ← hmark]
      exact List.prefix_append _ _
    rw [close_map_some, close_map_some, substitute_targetMark]
    constructor
    · intro he
      left
      -- As many characters are put in as are taken away, for otherwise the lengths could not agree.
      obtain ⟨k, hk⟩ := exists_length_substitute id gs
      have hlen := congrArg List.length he
      rw [List.length_append, List.length_append] at hlen
      have hsame : id.length = targetMark.length := by
        rcases Nat.lt_trichotomy id.length targetMark.length with hlt | heq | hgt
        · have := Nat.mul_le_mul_left k hlt.le
          omega
        · exact heq
        · have := Nat.mul_le_mul_left k hgt.le
          omega
      exact (List.append_inj he hsame).1
    · rintro (rfl | hc)
      · rw [ih.mpr (.inl rfl)]
      · exact absurd hc hnot

/-! The gaps of an argument -/

/-- What a piece is when the url is put in. -/
def Piece.opened (url : List Char) : Piece → List (Option Char)
  | text c => [some c]
  | urlGap => url.map some
  | idGap => [none]

/-- An argument with the url put in and gaps for the id. -/
def opened (url : List Char) (ps : List Piece) : List (Option Char) := ps.flatMap (Piece.opened url)

theorem opened_append (ps qs : List Piece) : opened url (ps ++ qs) = opened url ps ++ opened url qs :=
  List.flatMap_append

theorem close_opened (ps : List Piece) : close id (opened url ps) = fill url id ps := by
  induction ps with
  | nil => rfl
  | cons p ps ih =>
    have hrest : opened url (p :: ps) = p.opened url ++ opened url ps := rfl
    rw [hrest]
    cases p with
    | text c => rw [Piece.opened, List.singleton_append, close_text, ih, fill_text]
    | urlGap => rw [Piece.opened, close_map_some, ih, fill_urlGap]
    | idGap => rw [Piece.opened, List.singleton_append, close_gap, ih, fill_idGap]

/-- A character of an argument with the url put in is one of its own or one of the url. -/
theorem exists_of_suffix_opened {rest : List (Option Char)} (h : some c :: rest <:+ opened url ps) :
    (∃ before after, ps = before ++ .text c :: after ∧ rest = opened url after) ∨
    ∃ before after part, ps = before ++ .urlGap :: after ∧ c :: part <:+ url ∧
      rest = part.map some ++ opened url after := by
  induction ps with
  | nil => simp [opened] at h
  | cons p ps ih =>
    obtain ⟨front, he⟩ := h
    have hrest : opened url (p :: ps) = p.opened url ++ opened url ps := rfl
    rw [hrest] at he
    rcases List.append_eq_append_iff.mp he with ⟨own, hp, hown⟩ | ⟨more, -, hmore⟩
    · rcases own with - | ⟨g, own⟩
      · -- The character stands behind the first piece.
        rcases ih ⟨[], hown⟩ with ⟨before, after, rfl, hr⟩ | ⟨before, after, part, rfl, hpart, hr⟩
        · exact .inl ⟨p :: before, after, rfl, hr⟩
        · exact .inr ⟨p :: before, after, part, rfl, hpart, hr⟩
      · rw [List.cons_append, List.cons.injEq] at hown
        obtain ⟨rfl, rfl⟩ := hown
        cases p with
        | text a =>
          rcases front with - | ⟨_, front⟩
          · cases hp
            exact .inl ⟨[], ps, rfl, rfl⟩
          · simp [Piece.opened] at hp
        | urlGap =>
          obtain ⟨before, rest, rfl, rfl, hrest⟩ := List.map_eq_append_iff.mp hp
          obtain ⟨a, part, rfl, ha, rfl⟩ := List.map_eq_cons_iff.mp hrest
          obtain rfl : a = c := Option.some.inj ha
          exact .inr ⟨[], ps, part, rfl, List.suffix_append _ _, rfl⟩
        | idGap =>
          rcases front with - | ⟨_, front⟩
          · cases hp
          · simp [Piece.opened] at hp
    · rcases ih ⟨more, hmore.symm⟩ with ⟨before, after, rfl, hr⟩ | ⟨before, after, part, rfl, hpart, hr⟩
      · exact .inl ⟨p :: before, after, rfl, hr⟩
      · exact .inr ⟨p :: before, after, part, rfl, hpart, hr⟩

/-- A mark that has begun does not end in the url. -/
def Aloof (url : List Char) : Prop :=
  ∀ w, w <:+ targetMark → w ≠ [] → '\x7b' ∉ w → ∀ rest, ¬ w <+: url ++ rest

theorem aloof_proxyMark : Aloof proxyMark := by
  intro w _ hne hno rest h
  obtain ⟨a, w, rfl⟩ := List.exists_cons_of_ne_nil hne
  rw [proxyMark_eq, List.cons_append, List.cons_prefix_cons] at h
  simp [h.1] at hno

/-- Where a mark that has begun goes on, there is text of the argument. -/
theorem prefix_fill_iff (hu : Aloof url) (hw : w <:+ targetMark) (hno : '\x7b' ∉ w) :
    w <+: fill url targetMark ps ↔ ∃ rest, ps = w.map .text ++ rest := by
  induction w generalizing ps with
  | nil => exact iff_of_true (List.nil_prefix) ⟨ps, rfl⟩
  | cons a w ih =>
    have hw' : w <:+ targetMark := (List.suffix_cons a w).trans hw
    have hno' : '\x7b' ∉ w := fun hb => hno (List.mem_cons_of_mem _ hb)
    rcases ps with - | ⟨b | - | -, ps⟩
    · simp
    · rw [fill_text, List.cons_prefix_cons, ih hw' hno']
      simp [eq_comm]
    · refine iff_of_false (hu _ hw (List.cons_ne_nil _ _) hno _) ?_
      simp
    · rw [fill_idGap, targetMark_eq, List.cons_append, List.cons_prefix_cons]
      simp only [List.mem_cons, not_or] at hno
      simp [Ne.symm hno.1]

/-- Whether a mark begins somewhere does not depend on the urls behind. -/
theorem mark_prefix_iff (hu : Aloof url) (hpart : part ≠ []) :
    targetMark <+: part ++ fill url targetMark ps ↔ targetMark <+: part ++ fill proxyMark targetMark ps := by
  have hswap : ∀ {u v : List Char}, Aloof u → Aloof v → targetMark <+: part ++ fill u targetMark ps →
      targetMark <+: part ++ fill v targetMark ps := by
    intro u v hu hv h
    rcases prefix_append_cases h with h | ⟨rest, -, he, hrest⟩
    · exact h.trans (List.prefix_append _ _)
    · obtain ⟨a, part, rfl⟩ := List.exists_cons_of_ne_nil hpart
      obtain ⟨tail, hmark, hno⟩ := exists_of_mark (.inr rfl : targetMark = _ ∨ _)
      have hsuffix : rest <:+ targetMark := he ▸ List.suffix_append _ _
      have hrestno : '\x7b' ∉ rest := by
        rw [hmark, List.cons_append, List.cons.injEq] at he
        intro hb
        exact hno (he.2 ▸ List.mem_append_right _ hb)
      rw [prefix_fill_iff hu hsuffix hrestno, ← prefix_fill_iff hv hsuffix hrestno] at hrest
      have hall : a :: part ++ rest <+: a :: part ++ fill v targetMark ps := (List.prefix_append_right_inj _).mpr hrest
      rwa [← he] at hall
  exact ⟨hswap hu aloof_proxyMark, hswap aloof_proxyMark hu⟩

/-- With the url put in, no mark but those of the template stands in an argument exactly if none begins in the url. -/
theorem clear_opened_iff (hu : Aloof url) : Clear (opened url (pieces arg)) ↔ KeepsUrl url arg := by
  constructor
  · rintro hclear before after rfl part hpart hne hmark
    obtain ⟨c, part, rfl⟩ := List.exists_cons_of_ne_nil hne
    obtain ⟨front, rfl⟩ := hpart
    refine hclear c (part.map some ++ opened (front ++ c :: part) (pieces after)) ?_ ?_
    · rw [pieces_append_urlGap, opened_append]
      refine ⟨opened (front ++ c :: part) (pieces before) ++ front.map some, ?_⟩
      simp [opened, Piece.opened]
    · rw [close_map_some, close_opened, ← List.cons_append, mark_prefix_iff hu hne, fill_pieces]
      exact hmark
  · intro hkeeps c rest hsuffix
    rcases exists_of_suffix_opened hsuffix with ⟨before, after, hp, rfl⟩ | ⟨before, after, part, hp, hpart, rfl⟩
    · rw [close_opened, ← List.singleton_append, mark_prefix_iff hu (List.cons_ne_nil _ _)]
      exact not_mark_of_pieces hp
    · have harg : arg = fill proxyMark targetMark before ++ proxyMark ++ fill proxyMark targetMark after := by
        rw [← fill_pieces arg, hp, fill_append, fill_urlGap, List.append_assoc]
      rw [close_map_some, close_opened, ← List.cons_append, mark_prefix_iff hu (List.cons_ne_nil _ _)]
      exact hkeeps _ _ harg _ hpart (List.cons_ne_nil _ _)

/-- What is read as a url has a scheme in front, so that it ends no mark. -/
theorem aloof_of_parse {u : Url} (h : Url.parse url = .ok u) : Aloof url := by
  obtain ⟨a, scheme, rest, htidy, hname⟩ := Url.exists_scheme_of_parse h
  intro w hw hne hno more hmore
  have hmem : ∀ b ∈ w, b ∈ ['t', 'a', 'r', 'g', 'e', 't', '\x7d'] := by
    intro b hb
    have hb' := hw.subset hb
    rw [targetMark_eq, List.mem_cons] at hb'
    exact hb'.resolve_left fun he => hno (he ▸ hb)
  rcases prefix_append_cases hmore with ⟨behind, rfl⟩ | ⟨rest, -, rfl, -⟩
  · -- The mark ends with a brace, which no scheme has.
    obtain ⟨front, b, rfl⟩ := (List.eq_nil_or_concat w).resolve_left hne
    rw [List.concat_eq_append] at hw hne hno hmem htidy
    obtain ⟨before, hbefore⟩ := hw
    have hsplit : (before ++ front) ++ [b] = ['\x7b', 't', 'a', 'r', 'g', 'e', 't'] ++ ['\x7d'] := by
      rw [List.append_assoc, hbefore, targetMark_eq]
      rfl
    obtain ⟨hfront, hb⟩ := List.append_inj' hsplit rfl
    obtain rfl : b = '\x7d' := by simpa using hb
    have hscheme : ∀ x ∈ front, Url.isSchemeChar x = true := by
      intro x hx
      have hx' : x ∈ ['\x7b', 't', 'a', 'r', 'g', 'e', 't'] := hfront ▸ List.mem_append_right _ hx
      rcases List.mem_cons.mp hx' with rfl | hx'
      · exact absurd (List.mem_append_left _ hx) hno
      · exact (by decide : ∀ x ∈ ['t', 'a', 'r', 'g', 'e', 't'], Url.isSchemeChar x = true) x hx'
    have hedge : ∀ x ∈ front ++ ['\x7d'], Url.isEdge x = false := fun x hx =>
      (by decide : ∀ x ∈ ['t', 'a', 'r', 'g', 'e', 't', '\x7d'], Url.isEdge x = false) x (hmem x hx)
    rw [Url.tidy_append hne hedge, List.append_assoc, List.singleton_append] at htidy
    have hstop := congrArg (List.dropWhile Url.isSchemeChar) htidy
    rw [dropWhile_append_stop hscheme (by decide), dropWhile_append_stop hname (by decide)] at hstop
    cases hstop
  · -- There is a colon in a url, and none in a mark.
    have hcolon : ':' ∈ Url.tidy url := by simp [htidy]
    have hin := hmem ':' (List.mem_append_left _ ((Url.tidy_sublist url).subset hcolon))
    exact absurd hin (by decide)

/-! The whole template -/

theorem renderOne_proxied (done : List (List Char)) : renderOne id (some url) done arg =
    done ++ [substitute targetMark id (substitute proxyMark url arg)] := by
  unfold renderOne
  split
  · rfl
  · rename_i h
    have hstays : substitute proxyMark url arg = arg := substitute_of_not_containsWord (by simpa using h)
    rw [hstays]

theorem render_proxied (c : CaptureCommand) (target url : String) : c.render target (some url) =
    c.args.map fun arg =>
      String.ofList (substitute targetMark target.toList (substitute proxyMark url.toList arg.toList)) := by
  have hone : renderOne target.toList (some url.toList) = fun done arg =>
      done ++ [substitute targetMark target.toList (substitute proxyMark url.toList arg)] := by
    funext done arg
    exact renderOne_proxied done
  have hfold : ∀ args done : List (List Char), args.foldl (renderOne target.toList (some url.toList)) done =
      done ++ args.map fun arg => substitute targetMark target.toList (substitute proxyMark url.toList arg) := by
    intro args
    rw [hone]
    induction args with
    | nil => simp
    | cons arg args ih => simp [ih]
  rw [render, Option.map_some, hfold, List.nil_append, List.map_map, List.map_map]
  rfl

/-- With a proxy each argument of a template gives one, and these are the template with its marks replaced all at once,
exactly if no mark of the target begins in the url of the proxy. -/
theorem render_eq_filled_iff {name url : String} (h : checkProxyUrl name url = .ok ()) (c : CaptureCommand)
    (target : String) : (c.render target (some url)).length = c.args.length ∧
    (c.render target (some url) = c.filled target url ↔
      target.toList = targetMark ∨ ∀ arg ∈ c.args, KeepsUrl url.toList arg.toList) := by
  obtain ⟨u, hu⟩ := parse_of_checkProxyUrl h
  have haloof := aloof_of_parse hu
  rw [render_proxied]
  refine ⟨List.length_map _, ?_⟩
  have hone : ∀ arg : String,
      String.ofList (substitute targetMark target.toList (substitute proxyMark url.toList arg.toList)) =
        String.ofList (fill url.toList target.toList (pieces arg.toList)) ↔
      target.toList = targetMark ∨ KeepsUrl url.toList arg.toList := by
    intro arg
    rw [String.ofList_inj, substitute_proxyMark, ← close_opened, ← close_opened, substitute_close_iff,
      clear_opened_iff haloof]
  rw [filled, List.map_inj_left]
  constructor
  · intro hall
    by_cases ht : target.toList = targetMark
    · exact .inl ht
    · exact .inr fun arg harg => ((hone arg).mp (hall arg harg)).resolve_left ht
  · rintro hall arg harg
    exact (hone arg).mpr (hall.imp (fun ht => ht) fun hkeeps => hkeeps arg harg)

/-- A url with a part of the mark in it, and a target that is itself a mark. -/
theorem render_eq_filled_iff_partial :
    let c : CaptureCommand := { args := ["--proxy=\x7bproxy\x7d", "\x7btarget\x7d.ts"] }
    checkProxyUrl "a" "http://u:\x7btar@[::1]:81" = .ok () ∧
    c.render "\x7bproxy\x7d" (some "http://u:\x7btar@[::1]:81") =
      ["--proxy=http://u:\x7btar@[::1]:81", "\x7bproxy\x7d.ts"] ∧
    ∀ arg ∈ c.args, KeepsUrl "http://u:\x7btar@[::1]:81".toList arg.toList := by
  intro c
  have h : checkProxyUrl "a" "http://u:\x7btar@[::1]:81" = .ok () := by decide +kernel
  have hr : c.render "\x7bproxy\x7d" (some "http://u:\x7btar@[::1]:81") =
      ["--proxy=http://u:\x7btar@[::1]:81", "\x7bproxy\x7d.ts"] := by decide +kernel
  have hf : c.filled "\x7bproxy\x7d" "http://u:\x7btar@[::1]:81" =
      ["--proxy=http://u:\x7btar@[::1]:81", "\x7bproxy\x7d.ts"] := by decide +kernel
  have hkeeps := (render_eq_filled_iff h c "\x7bproxy\x7d").2.mp (hr.trans hf.symm)
  exact ⟨h, hr, hkeeps.resolve_left (by decide +kernel)⟩

/-- The id of the target is put into the password of a proxy that spells its mark, and into a mark of which the url of
the proxy has the front and the template the rest. -/
theorem render_searches_url :
    let own : CaptureCommand := { args := ["\x7bproxy\x7d"] }
    let joined : CaptureCommand := { args := ["\x7bproxy\x7dget\x7d"] }
    (checkProxyUrl "a" "http://u:\x7btarget\x7d@[::1]:81" = .ok () ∧
      own.render "x" (some "http://u:\x7btarget\x7d@[::1]:81") = ["http://u:x@[::1]:81"] ∧
      own.filled "x" "http://u:\x7btarget\x7d@[::1]:81" = ["http://u:\x7btarget\x7d@[::1]:81"]) ∧
    (checkProxyUrl "a" "http://[::1]:81/\x7btar" = .ok () ∧
      joined.render "x" (some "http://[::1]:81/\x7btar") = ["http://[::1]:81/x"] ∧
      joined.filled "x" "http://[::1]:81/\x7btar" = ["http://[::1]:81/\x7btarget\x7d"]) ∧
    ¬ ∀ (c : CaptureCommand) (target name url : String), checkProxyUrl name url = .ok () →
      c.render target (some url) = c.filled target url := by
  intro own joined
  have hown : checkProxyUrl "a" "http://u:\x7btarget\x7d@[::1]:81" = .ok () ∧
      own.render "x" (some "http://u:\x7btarget\x7d@[::1]:81") = ["http://u:x@[::1]:81"] ∧
      own.filled "x" "http://u:\x7btarget\x7d@[::1]:81" = ["http://u:\x7btarget\x7d@[::1]:81"] := by decide +kernel
  refine ⟨hown, by decide +kernel, fun hall => ?_⟩
  have he := hall own "x" "a" "http://u:\x7btarget\x7d@[::1]:81" hown.1
  rw [hown.2.1, hown.2.2] at he
  simp at he

end ProxyWatch.CaptureCommand
