import ProxyWatch.Proofs.Toml.Place
import ProxyWatch.Proofs.Toml.Value

/-! Documents are read as they were written: in every table the pairs stand in front of the tables. -/
namespace ProxyWatch.Toml

open Members

/-! Lines -/

variable {doc doc' result base : Members} {path : List String} {cs rest : List Char} {place : Members → Members}
  {name : String} {v : Toml} {ms : List (String × Toml)}

/-- The characters that are no line feeds. Each line with a pair or a header has one, so that there are as many steps at
most. -/
def weight (cs : List Char) : Nat := cs.countP (· != '\n')

theorem weight_append (cs ds : List Char) : weight (cs ++ ds) = weight cs + weight ds := List.countP_append

theorem weight_le_length (cs : List Char) : weight cs ≤ cs.length := List.countP_le_length

/-- Reading the rest of a document, where pairs go to the table at the path, leads to the members of all of it. -/
def Reads (doc : Members) (path : List String) (cs : List Char) (result : Members) : Prop :=
  ∀ fuel, weight cs < fuel → lines? fuel doc path cs = some result

theorem reads_nil (doc : Members) (path : List String) : Reads doc path [] doc := by
  intro fuel hfuel
  obtain ⟨fuel, rfl⟩ : ∃ n, fuel = n + 1 := ⟨fuel - 1, by omega⟩
  rfl

/-- Empty lines don't count. -/
theorem reads_feed : Reads doc path ('\n' :: cs) result ↔ Reads doc path cs result := by
  have hsame : ∀ fuel, lines? fuel doc path ('\n' :: cs) = lines? fuel doc path cs := by
    intro fuel
    cases fuel with
    | zero => rfl
    | succ fuel => rw [lines?, lines?, skip.eq_2]
  simp only [Reads, hsame]
  rfl

theorem endLine?_feed (cs : List Char) : endLine? ('\n' :: cs) = some cs := by
  have hblank : isBlank '\n' = false := rfl
  simp [endLine?, skipBlanks, hblank, afterBreak?]

/-- A line with a pair. -/
def pairLine (m : String × Toml) : List Char := keyChars m.1 ++ " = ".toList ++ chars 0 m.2 ++ ['\n']

/-- The line begins with the name, and so with nothing that is skipped and with no bracket. -/
theorem exists_pairLine (m : String × Toml) (cs : List Char) :
    ∃ c r, pairLine m ++ cs = c :: r ∧ IsStart c ∧ c ≠ '[' := by
  obtain ⟨c, r, hcs, hc⟩ := exists_keyChars m.1
  exact ⟨c, _, by rw [pairLine, hcs]; rfl, hc⟩

/-- The name and the value are read, up to the end of the line. -/
theorem keyEquals?_pairLine (hv : Inline maxDepth v) (name : String) (cs : List Char) : ∃ r,
    keyEquals? (pairLine (name, v) ++ cs) = some ([name], r) ∧
    value? (2 * r.length + 2) maxDepth r = some (v, '\n' :: cs) := by
  have htext : pairLine (name, v) ++ cs = keyChars name ++ (" = ".toList ++ (chars 0 v ++ '\n' :: cs)) := by
    simp [pairLine]
  have hblanks : skipBlanks (chars 0 v ++ '\n' :: cs) = chars 0 v ++ '\n' :: cs := by
    obtain ⟨c, r, hcs, hc⟩ := hv.exists_start 0
    rw [hcs]
    exact hc.skipBlanks
  refine ⟨chars 0 v ++ '\n' :: cs, ?_, ?_⟩
  · rw [htext, keyEquals?_keyChars, hblanks]
  · exact hv.isRead 0 _ _ (by simp; omega) (.cons (by decide))

theorem Reads.pair (h : Reads doc' path cs result) (hv : Inline maxDepth v)
    (hdoc : doc.update (·.insert v [name]) path = some doc') : Reads doc path (pairLine (name, v) ++ cs) result := by
  intro fuel hfuel
  have hweight : weight (pairLine (name, v) ++ cs) = weight (pairLine (name, v)) + weight cs := weight_append _ _
  have hpos : 0 < weight (pairLine (name, v)) := by
    simp [pairLine, weight, List.countP_append]
  obtain ⟨fuel, rfl⟩ : ∃ n, fuel = n + 1 := ⟨fuel - 1, by omega⟩
  obtain ⟨c, r, htext, hc, hbracket⟩ := exists_pairLine (name, v) cs
  obtain ⟨s, hkey, hvalue⟩ := keyEquals?_pairLine hv name cs
  rw [htext] at hkey
  rw [htext, lines?, hc.skip]
  simp only [Option.bind_eq_bind, Option.bind_some]
  split
  · rename_i heq
    cases heq
  · rename_i heq
    exact absurd (List.cons.inj heq).1 hbracket
  · rw [hkey]
    simp only [Option.bind_some, hvalue, hdoc, endLine?_feed]
    exact h fuel (by omega)

theorem length_le_pathChars (path : List String) : path.length ≤ (pathChars path).length + 1 := by
  induction path with
  | nil => simp
  | cons name path ih =>
    by_cases hp : path = []
    · subst hp
      simp
    · rw [pathChars_cons name hp]
      simp
      omega

theorem exists_headerLine (h : path ≠ []) (isItem : Bool) (cs : List Char) : ∃ r,
    headerLine isItem path ++ cs = '[' :: r ∧ header? r = some (path, isItem, '\n' :: cs) := by
  have hlen := length_le_pathChars path
  have hkey : ∀ r, key? (pathChars path ++ ']' :: r).length (pathChars path ++ ']' :: r) = some (path, ']' :: r) := by
    intro r
    exact key?_pathChars h (by simp; omega) (by rintro _ ⟨⟩; rfl) (by rintro _ ⟨⟩; decide)
  obtain ⟨c, s, hcs, hc, hbracket⟩ := exists_pathChars h
  cases isItem with
  | true =>
    refine ⟨'[' :: (pathChars path ++ ']' :: ']' :: '\n' :: cs), by simp [headerLine, pathChars], ?_⟩
    rw [header?.eq_1, hkey]
    rfl
  | false =>
    refine ⟨pathChars path ++ ']' :: '\n' :: cs, by simp [headerLine, pathChars], ?_⟩
    rw [header?.eq_2 _ fun r => append_ne_cons hcs hbracket, hkey]
    rfl

theorem Reads.header {isItem : Bool} (h : Reads doc' path cs result) (hne : path ≠ [])
    (hdoc : (if isItem then doc.openItem path else doc.openTable path) = some doc') (q : List String) :
    Reads doc q (headerLine isItem path ++ cs) result := by
  intro fuel hfuel
  have hweight : weight (headerLine isItem path ++ cs) = weight (headerLine isItem path) + weight cs := weight_append _ _
  have hpos : 0 < weight (headerLine isItem path) := by
    cases isItem <;> simp [headerLine, weight]
  obtain ⟨fuel, rfl⟩ : ∃ n, fuel = n + 1 := ⟨fuel - 1, by omega⟩
  obtain ⟨r, htext, hread⟩ : ∃ r, headerLine isItem path ++ cs = '[' :: r ∧
      header? r = some (path, isItem, '\n' :: cs) := exists_headerLine hne isItem cs
  have hskip : skip false ('[' :: r) = some ('[' :: r) := skip_cons rfl (by decide) (by decide) (by decide)
  rw [htext, lines?, hskip]
  simp only [Option.bind_eq_bind, Option.bind_some, hread]
  cases isItem with
  | true =>
    rw [if_pos rfl] at hdoc
    simp only [if_true, hdoc, Option.bind_some, endLine?_feed]
    exact h fuel (by omega)
  | false =>
    rw [if_neg Bool.false_ne_true] at hdoc
    simp only [Bool.false_eq_true, if_false, hdoc, Option.bind_some, endLine?_feed]
    exact h fuel (by omega)

/-! Tables -/

/-- The members that stand in the lines of a table of their own. -/
def ownEntries (ms : List (String × Toml)) : Members :=
  (ms.filter fun m => !m.2.isSection).map fun m => (m.1, .value m.2)

mutual

/-- What the text of a value is read as in a document under construction. -/
def toEntry : Toml → Entry
  | table ms => .table .header (ownEntries ms ++ sectionEntries ms)
  | arr vs => .tables (itemEntries vs)
  | v => .value v

/-- The members that are written as tables, or as tables of an array. -/
def sectionEntries : List (String × Toml) → Members
  | [] => []
  | (name, v) :: rest => if v.isSection then (name, toEntry v) :: sectionEntries rest else sectionEntries rest

def itemEntries : List Toml → List Members
  | [] => []
  | table ms :: vs => (ownEntries ms ++ sectionEntries ms) :: itemEntries vs
  | _ :: vs => itemEntries vs

end

/-- The members of a table as they are read: pairs first, and tables behind them. -/
def entries (ms : List (String × Toml)) : Members := ownEntries ms ++ sectionEntries ms

/-- A value that can be written: in a line, as a table in which each name stands once, or as several tables. -/
inductive Writable : Toml → Prop
  | inline {v : Toml} (h : Inline maxDepth v) : Writable v
  | table {ms : List (String × Toml)} (distinct : (ms.map Prod.fst).Nodup) (h : ∀ m ∈ ms, Writable m.2) :
      Writable (.table ms)
  | tables {vs : List Toml} (ne : vs ≠ []) (only : ∀ v ∈ vs, ∃ ms, v = .table ms) (h : ∀ v ∈ vs, Writable v) :
      Writable (.arr vs)

theorem not_table_of_inline {depth : Nat} {vs : List Toml} (h : Inline depth (arr vs)) :
    ∀ v ∈ vs, ∀ inner, v ≠ table inner := by
  cases h with
  | arr h =>
    rintro v hv inner rfl
    cases h _ hv

theorem isSection_of_inline {depth : Nat} (h : Inline depth v) : v.isSection = false := by
  cases h with
  | @arr _ vs h =>
    rcases vs with _ | ⟨v, vs⟩
    · rfl
    · have hv := h v (by simp)
      cases hv <;> rfl
  | _ => rfl

theorem isSection_tables {vs : List Toml} (ne : vs ≠ []) (only : ∀ v ∈ vs, ∃ ms, v = table ms) :
    isSection (arr vs) = true := by
  obtain ⟨v, vs, rfl⟩ := List.exists_cons_of_ne_nil ne
  obtain ⟨ms, rfl⟩ := only v (by simp)
  rfl

/-- What isn't written as a table stands in a line. -/
theorem Writable.inline_of_not_section (h : Writable v) (hv : v.isSection = false) : Inline maxDepth v := by
  cases h with
  | inline h => exact h
  | table => cases hv
  | tables ne only =>
    rw [isSection_tables ne only] at hv
    cases hv

theorem Writable.tables_of_section {vs : List Toml} (h : Writable (.arr vs)) (hvs : isSection (arr vs) = true) :
    ∀ v ∈ vs, ∃ ms, v = .table ms := by
  cases h with
  | inline h =>
    rw [isSection_of_inline h] at hvs
    cases hvs
  | tables _ only => exact only

theorem Writable.str (s : String) : Writable (.str s) := .inline (.str s)

theorem Writable.bool (b : Bool) : Writable (.bool b) := .inline (.bool b)

theorem Writable.strings (ss : List String) : Writable (.arr (ss.map .str)) := by
  refine .inline (.arr ?_)
  intro v hv
  obtain ⟨s, -, rfl⟩ := List.mem_map.mp hv
  exact .str s

/-- The parts of a document, each behind an empty line. -/
def joined (ps : List (List Char)) : List Char := (ps.filter fun p => !p.isEmpty).flatMap fun p => '\n' :: p

theorem joined_append (ps qs : List (List Char)) : joined (ps ++ qs) = joined ps ++ joined qs := by
  simp [joined]

theorem joined_cons {p : List Char} (h : p ≠ []) (ps : List (List Char)) : joined (p :: ps) = '\n' :: (p ++ joined ps) := by
  simp [joined, h]

theorem headerLine_ne (isItem : Bool) (path : List String) : headerLine isItem path ≠ [] := by
  cases isItem <;> simp [headerLine]

/-- The text of a table is read into the place that its header opens. -/
def IsTableRead (ms : List (String × Toml)) : Prop := ∀ path place rest result, IsPlace path place →
  (∀ q, Reads (place (entries ms)) q rest result) →
  Reads (place []) path (ownLines ms ++ (joined (memberParts path ms) ++ rest)) result

theorem reads_pairs {own : List (String × Toml)} (base : Members) (hplace : IsPlace path place)
    (hnames : (base.names ++ own.map Prod.fst).Nodup) (hown : ∀ m ∈ own, Inline maxDepth m.2)
    (h : Reads (place (base ++ own.map fun m => (m.1, .value m.2))) path rest result) :
    Reads (place base) path (own.flatMap pairLine ++ rest) result := by
  induction own generalizing base with
  | nil => simpa using h
  | cons m own ih =>
    obtain ⟨hm, hmore⟩ := List.forall_mem_cons.mp hown
    have hfresh : m.1 ∉ base.names := by
      intro hmem
      exact (List.nodup_append.mp hnames).2.2 m.1 hmem m.1 (by simp) rfl
    rw [List.flatMap_cons, List.append_assoc]
    refine Reads.pair (ih (base ++ [(m.1, .value m.2)]) ?_ hmore ?_) hm (hplace.insert hfresh m.2)
    · simpa [Members.names] using hnames
    · simpa using h

theorem ownLines_eq (ms : List (String × Toml)) : ownLines ms = (ms.filter fun m => !m.2.isSection).flatMap pairLine := rfl

/-- The text of a table with its header is read into the place that the header opens. -/
theorem reads_part (isItem : Bool) (hread : IsTableRead ms) (hplace : IsPlace path place) (hne : path ≠ [])
    (hdoc : (if isItem then doc.openItem path else doc.openTable path) = some (place []))
    (h : ∀ q, Reads (place (entries ms)) q rest result) (q : List String) :
    Reads doc q (joined (parts path (headerLine isItem path) (table ms)) ++ rest) result := by
  have hpart : headerLine isItem path ++ ownLines ms ≠ [] := by simp [headerLine_ne]
  have hheader := (hread path place rest result hplace h).header hne hdoc q
  rw [parts, joined_cons hpart, List.cons_append, reads_feed]
  simpa only [List.append_assoc] using hheader

/-- One table after another is read into an array that is the last member. -/
theorem reads_items {vs : List Toml} (hplace : IsPlace path place) (hname : name ∉ base.names)
    (htables : ∀ v ∈ vs, ∃ inner, v = table inner) (hread : ∀ inner, table inner ∈ vs → IsTableRead inner)
    (items : List Members)
    (h : ∀ q, Reads (place (base.withItems name (items ++ itemEntries vs))) q rest result) (q : List String) :
    Reads (place (base.withItems name items)) q (joined (itemParts (path ++ [name]) vs) ++ rest) result := by
  induction vs generalizing items q with
  | nil => simpa [itemEntries, itemParts, joined] using h q
  | cons v vs ih =>
    obtain ⟨⟨inner, rfl⟩, hmore⟩ := List.forall_mem_cons.mp htables
    have ih := ih hmore (fun inner hi => hread inner (List.mem_cons_of_mem _ hi)) (items ++ [entries inner])
      (by simpa [itemEntries, entries] using h)
    rw [itemParts, joined_append, List.append_assoc]
    exact reads_part true (hread inner (by simp)) (hplace.inside (.item items) hname) (by simp)
      (hplace.openItem hname items) (by simpa [withItems] using ih) q

theorem itemParts_eq_nil {vs : List Toml} (h : ∀ v ∈ vs, ∀ inner, v ≠ table inner) (path : List String) :
    itemParts path vs = [] := by
  induction vs with
  | nil => rfl
  | cons v vs ih =>
    obtain ⟨hv, hmore⟩ := List.forall_mem_cons.mp h
    rw [itemParts, parts.eq_2 _ _ _ fun ms he => hv ms he, ih hmore]
    rfl

/-- The tables that a value is, or is an array of, are read. -/
structure AreRead (v : Toml) : Prop where
  table : ∀ ms, v = .table ms → IsTableRead ms
  item : ∀ vs ms, v = .arr vs → .table ms ∈ vs → IsTableRead ms

/-- The tables of a table are read one after another, to stand behind what it has. -/
theorem reads_sections (base : Members) (hplace : IsPlace path place)
    (hnames : (base.names ++ (ms.filter fun m => m.2.isSection).map Prod.fst).Nodup)
    (hms : ∀ m ∈ ms, Writable m.2 ∧ AreRead m.2)
    (h : ∀ q, Reads (place (base ++ sectionEntries ms)) q rest result) (q : List String) :
    Reads (place base) q (joined (memberParts path ms) ++ rest) result := by
  induction ms generalizing base q with
  | nil => simpa [sectionEntries, memberParts, joined] using h q
  | cons m ms ih =>
    obtain ⟨name, v⟩ := m
    obtain ⟨⟨hwritable, hread⟩, hmore⟩ := List.forall_mem_cons.mp hms
    by_cases hsection : v.isSection = true
    · have hfresh : name ∉ base.names := by
        intro hmem
        exact (List.nodup_append.mp hnames).2.2 name hmem name (by simp [hsection]) rfl
      have ih : ∀ q, Reads (place (base ++ [(name, toEntry v)])) q (joined (memberParts path ms) ++ rest) result :=
        ih _ (by simpa [hsection, Members.names] using hnames) hmore (by simpa [sectionEntries, hsection] using h)
      cases v with
      | table inner =>
        rw [memberParts, joined_append, List.append_assoc]
        exact reads_part false (hread.table inner rfl) (hplace.inside (.table .header) hfresh) (by simp)
          (hplace.openTable hfresh) ih q
      | arr vs =>
        have hne : itemEntries vs ≠ [] := by
          rcases vs with _ | ⟨⟨⟩, vs⟩ <;> simp [isSection] at hsection
          simp [itemEntries]
        rw [memberParts, joined_append, List.append_assoc]
        exact reads_items hplace hfresh (hwritable.tables_of_section hsection) (fun inner => hread.item vs inner rfl)
          [] (by simpa [withItems, hne, toEntry] using ih) q
      | _ => simp [isSection] at hsection
    · -- The lines of the pairs are in front of the sections, so that there is nothing of this member here.
      have hsection : v.isSection = false := by simpa using hsection
      have ih := ih base (by simpa [hsection] using hnames) hmore
        (by simpa [sectionEntries, hsection] using h) q
      cases v with
      | table inner => simp [isSection] at hsection
      | arr vs =>
        have hinline := hwritable.inline_of_not_section hsection
        rw [memberParts, itemParts_eq_nil (not_table_of_inline hinline)]
        exact ih
      | _ => simpa [memberParts] using ih

theorem names_ownEntries (ms : List (String × Toml)) :
    (ownEntries ms).names = (ms.filter fun m => !m.2.isSection).map Prod.fst := by
  simp [ownEntries, Members.names]

theorem isTableRead_of_members (distinct : (ms.map Prod.fst).Nodup) (hms : ∀ m ∈ ms, Writable m.2 ∧ AreRead m.2) :
    IsTableRead ms := by
  intro path place rest result hplace h
  have hsplit : ((ms.filter fun m => !m.2.isSection).map Prod.fst ++
      (ms.filter fun m => m.2.isSection).map Prod.fst).Nodup := by
    have hperm := (List.filter_append_perm (fun m : String × Toml => m.2.isSection) ms).map Prod.fst
    rw [List.map_append] at hperm
    exact (List.perm_append_comm.trans hperm).nodup_iff.mpr distinct
  rw [ownLines_eq]
  refine reads_pairs [] hplace (List.nodup_append.mp hsplit).1 ?_ ?_
  · intro m hm
    obtain ⟨hm, hsection⟩ := List.mem_filter.mp hm
    exact (hms m hm).1.inline_of_not_section (by simpa using hsection)
  · exact reads_sections (ownEntries ms) hplace (by rwa [names_ownEntries]) hms h path

/-- What can be written is read. -/
theorem Writable.areRead (h : Writable v) : AreRead v := by
  induction h with
  | @inline v h =>
    constructor
    · rintro ms rfl
      cases h
    · rintro vs ms rfl hms
      exact absurd rfl (not_table_of_inline h _ hms ms)
  | @table ms distinct h ih =>
    constructor
    · rintro _ ⟨⟩
      exact isTableRead_of_members distinct fun m hm => ⟨h m hm, ih m hm⟩
    · rintro vs _ ⟨⟩
  | @tables vs _ _ h ih =>
    constructor
    · rintro _ ⟨⟩
    · rintro _ ms ⟨⟩ hms
      exact (ih _ hms).table ms rfl

/-! Documents -/

theorem intercalate_cons (p : List Char) (ps : List (List Char)) :
    ['\n'].intercalate (p :: ps) = p ++ ps.flatMap fun p => '\n' :: p := by
  induction ps generalizing p with
  | nil => simp
  | cons p' ps ih => simp [ih]

theorem reads_print (h : Reads [] [] (ownLines ms ++ joined (memberParts [] ms)) result) :
    Reads [] [] (print ms).toList result := by
  have hparts : parts [] [] (table ms) = ownLines ms :: memberParts [] ms := rfl
  rw [print, String.toList_ofList, hparts]
  by_cases hown : ownLines ms = []
  · rw [hown, List.nil_append, joined] at h
    rw [hown, List.filter_cons_of_neg (by simp)]
    cases hsections : (memberParts [] ms).filter fun p => !p.isEmpty with
    | nil => simpa [hsections] using h
    | cons p ps =>
      rw [hsections, List.flatMap_cons, List.cons_append, reads_feed] at h
      rwa [intercalate_cons]
  · rw [List.filter_cons_of_pos (by simpa using hown), intercalate_cons]
    exact h

/-- Nothing that is read begins with a byte order mark. -/
theorem dropMark_of_reads (h : Reads doc path cs result) : dropMark cs = cs := by
  unfold dropMark
  split
  · rename_i r
    have hskip : skip false ('\uFEFF' :: r) = some ('\uFEFF' :: r) :=
      skip_cons (by decide) (by decide) (by decide) (by decide)
    have hread := h (weight ('\uFEFF' :: r) + 1) (Nat.lt_succ_self _)
    have hname : name? ('\uFEFF' :: r) = none := rfl
    have hkey : keyEquals? ('\uFEFF' :: r) = none := by
      rw [keyEquals?, List.length_cons, key?, show skipBlanks ('\uFEFF' :: r) = '\uFEFF' :: r from rfl, hname]
      rfl
    rw [lines?, hskip] at hread
    simp [hkey] at hread
  · rfl

/-- A document is read as it was written, but with the pairs of every table in front of its tables. -/
theorem parse?_print (h : Writable (.table ms)) : parse? (print ms) = some (finishMembers (entries ms)) := by
  have hbody := h.areRead.table ms rfl [] id [] (entries ms) isPlace_root fun q => reads_nil _ _
  rw [List.append_nil] at hbody
  have hread := reads_print hbody
  rw [parse?, dropMark_of_reads hread, hread _ ?_]
  · rfl
  · have := weight_le_length (print ms).toList
    rw [String.length_toList] at this
    omega

/-! What is read -/

@[simp] theorem isSection_str (s : String) : (str s).isSection = false := rfl

@[simp] theorem isSection_int (i : Int) : (int i).isSection = false := rfl

@[simp] theorem isSection_float (x : Binary64) : (float x).isSection = false := rfl

@[simp] theorem isSection_bool (b : Bool) : (bool b).isSection = false := rfl

@[simp] theorem isSection_table (ms : List (String × Toml)) : (table ms).isSection = true := rfl

@[simp] theorem isSection_nil : (arr []).isSection = false := rfl

@[simp] theorem isSection_strings (ss : List String) : (arr (ss.map str)).isSection = false := by
  cases ss <;> rfl

theorem finishMembers_append (ms ms' : Members) : finishMembers (ms ++ ms') = finishMembers ms ++ finishMembers ms' := by
  induction ms with
  | nil => rfl
  | cons m ms ih => simp [finishMembers, ih]

theorem finishMembers_ownEntries (ms : List (String × Toml)) :
    finishMembers (ownEntries ms) = ms.filter fun m => !m.2.isSection := by
  unfold ownEntries
  induction ms.filter fun m => !m.2.isSection with
  | nil => rfl
  | cons m ms ih => simp [finishMembers, Entry.finish, ih]

theorem finishMembers_sectionEntries (ms : List (String × Toml)) : finishMembers (sectionEntries ms) =
    (ms.filter fun m => m.2.isSection).map fun m => (m.1, (toEntry m.2).finish) := by
  induction ms with
  | nil => rfl
  | cons m ms ih =>
    cases hm : m.2.isSection <;> simp [sectionEntries, finishMembers, hm, ih]

/-- In a table that was read the pairs stand in front of the tables. -/
theorem finish_entries (ms : List (String × Toml)) : finishMembers (entries ms) =
    (ms.filter fun m => !m.2.isSection) ++
      (ms.filter fun m => m.2.isSection).map fun m => (m.1, (toEntry m.2).finish) := by
  rw [entries, finishMembers_append, finishMembers_ownEntries, finishMembers_sectionEntries]

theorem finish_table (ms : List (String × Toml)) : (toEntry (table ms)).finish = table (finishMembers (entries ms)) := by
  rw [toEntry, Entry.finish, entries]

/-- A table without tables is read as it is. -/
theorem finish_flat (h : ∀ m ∈ ms, m.2.isSection = false) : (toEntry (table ms)).finish = table ms := by
  have hown : ms.filter (fun m => !m.2.isSection) = ms := by
    rw [List.filter_eq_self]
    intro m hm
    simp [h m hm]
  have hsections : ms.filter (fun m => m.2.isSection) = [] := by
    rw [List.filter_eq_nil_iff]
    intro m hm
    simp [h m hm]
  rw [finish_table, finish_entries, hown, hsections, List.map_nil, List.append_nil]

/-- Tables that are read as they are make up an array that is. -/
theorem finish_arr {vs : List Toml} (h : ∀ v ∈ vs, (∃ ms, v = table ms) ∧ (toEntry v).finish = v) :
    (toEntry (arr vs)).finish = arr vs := by
  rw [toEntry, Entry.finish]
  congr 1
  induction vs with
  | nil => rfl
  | cons v vs ih =>
    obtain ⟨⟨⟨ms, rfl⟩, hv⟩, hmore⟩ := List.forall_mem_cons.mp h
    rw [finish_table, entries] at hv
    rw [itemEntries, finishItems, hv, ih hmore]

theorem finish_strings (vs : List (String × String)) :
    (toEntry (table (vs.map fun v => (v.1, str v.2)))).finish = table (vs.map fun v => (v.1, str v.2)) := by
  apply finish_flat
  intro m hm
  obtain ⟨v, -, rfl⟩ := List.mem_map.mp hm
  rfl

end ProxyWatch.Toml
