import ProxyWatch.FileTree

/-! What operations on a tree of files leave as it was. -/
namespace ProxyWatch.FileTree

/-- What stands in the tree stands in the other one too, which has nothing more than further directories. -/
structure AddsDirs (t t' : FileTree) : Prop where
  cwd_eq : t'.cwd = t.cwd
  keeps : ∀ p n, t.at? p = some n → t'.at? p = some n
  file : ∀ p bytes, t'.at? p = some (.file bytes) → t.at? p = some (.file bytes)

/-- What a path names stays there, and no other file appears under the path than one that stood there before. -/
structure Spares (t : FileTree) (path : String) (t' : FileTree) : Prop where
  kept : ∀ n, t.stat path = .ok n → t'.stat path = .ok n
  place : ∀ p p', t.resolve path = .ok p → t'.resolve path = .ok p' → p' = p
  file : ∀ p bytes, t'.resolve path = .ok p → t'.at? p = some (.file bytes) → t.at? p = some (.file bytes)

section
variable {t t' : FileTree} {p q : Place} {n : Node} {path old new : String} {bytes b : ByteArray}

theorem at?_put (hp : p ≠ []) : (t.put p n).at? q = if q = p then some n else t.at? q := by
  unfold at? put
  by_cases hq : q = []
  · simp [hq, Ne.symm hp]
  · by_cases he : q = p
    · subst he
      simp [hq]
    · have hpq : p ≠ q := Ne.symm he
      simp only [hq, he, if_false, List.find?_cons, List.find?_filter]
      have hb : (p == q) = false := by simpa using hpq
      simp only [hb]
      congr 2
      funext x
      by_cases hx : x.1 = q
      · simp [hx, he]
      · simp [hx]

theorem at?_remove (hp : p ≠ []) : (t.remove p).at? q = if q = p then none else t.at? q := by
  unfold at? remove
  by_cases hq : q = []
  · simp [hq, Ne.symm hp]
  · by_cases he : q = p
    · subst he
      simp [hq]
    · simp only [hq, he, if_false, List.find?_filter]
      congr 2
      funext x
      by_cases hx : x.1 = q
      · simp [hx, he]
      · simp [hx]

/-- The root is a directory. -/
theorem ne_root (h : t.at? p ≠ some .dir) : p ≠ [] := by
  rintro rfl
  exact h rfl

/-! Paths -/

/-- Where a path begins. -/
def base (t : FileTree) (path : String) : Place := if path.startsWith "/" then [] else t.cwd

/-- A way through directories is the same in a tree that has them too. -/
theorem walk_mono (h : ∀ p, t.at? p = some .dir → t'.at? p = some .dir) {dir : Place} {names : List String}
    (hw : t.walk dir names = .ok p) : t'.walk dir names = .ok p := by
  fun_induction walk t dir names with
  | case1 | case4 => simpa [walk] using hw
  | case2 dir rest ih | case3 dir rest ih =>
    rw [walk]
    exact ih hw
  | case5 dir name rest hdot hdots hone hd ih =>
    rw [walk.eq_5 _ _ _ _ hdot hdots hone, h _ hd]
    exact ih hw
  | case6 | case7 => cases hw

theorem resolve_eq_ok : t.resolve path = .ok p ↔ path ≠ "" ∧ t.walk (t.base path) (names path) = .ok p ∧
    ∀ bytes, t.at? p = some (.file bytes) → path.endsWith "/" = false := by
  unfold resolve
  by_cases he : path = ""
  · simp [he]
  · simp only [he, if_false, ne_eq, not_false_eq_true, true_and]
    change (t.walk (t.base path) (names path)).bind _ = _ ↔ _
    cases hw : t.walk (t.base path) (names path) with
    | error e => simp [Except.bind]
    | ok place =>
      simp only [Except.bind, Except.ok.injEq]
      split
      · rename_i bytes hf
        by_cases hs : path.endsWith "/" = true
        · simp only [hs, if_true, reduceCtorEq, false_iff]
          rintro ⟨rfl, h⟩
          exact absurd (h bytes hf) (by simp)
        · simp [hs]
      · rename_i hf
        simp only [Except.ok.injEq]
        refine ⟨fun h => ⟨h, fun bytes hb => (hf bytes (h ▸ hb)).elim⟩, And.left⟩

theorem stat_eq_ok : t.stat path = .ok n ↔ ∃ p, t.resolve path = .ok p ∧ t.at? p = some n := by
  unfold stat
  change (t.resolve path).bind _ = _ ↔ _
  cases hr : t.resolve path with
  | error e => simp [Except.bind]
  | ok p =>
    cases ha : t.at? p with
    | none => simp [Except.bind, ha]
    | some m => simp [Except.bind, ha]

theorem pathExists_iff : t.pathExists path = true ↔ ∃ n, t.stat path = .ok n := by
  unfold pathExists
  cases t.stat path <;> simp

/-- A path leads to the same place in a tree with the same directories and nothing else at that place. -/
theorem resolve_mono (hc : t'.cwd = t.cwd) (h : ∀ p, t.at? p = some .dir → t'.at? p = some .dir)
    (hr : t.resolve path = .ok p)
    (hf : ∀ bytes, t'.at? p = some (.file bytes) → path.endsWith "/" = false) : t'.resolve path = .ok p := by
  obtain ⟨he, hw, -⟩ := resolve_eq_ok.mp hr
  have hb : t'.base path = t.base path := by simp only [base, hc]
  exact resolve_eq_ok.mpr ⟨he, hb ▸ walk_mono h hw, hf⟩

theorem place_mono (hc : t'.cwd = t.cwd) (h : ∀ p, t.at? p = some .dir → t'.at? p = some .dir)
    (hr : t.resolve path = .ok p) (hr' : t'.resolve path = .ok q) : q = p := by
  have hb : t'.base path = t.base path := by simp only [base, hc]
  have hw := walk_mono h (resolve_eq_ok.mp hr).2.1
  have hw' := (resolve_eq_ok.mp hr').2.1
  rw [hb, hw] at hw'
  exact (Except.ok.inj hw').symm

theorem AddsDirs.refl (t : FileTree) : AddsDirs t t := ⟨rfl, fun _ _ => id, fun _ _ => id⟩

theorem AddsDirs.put_dir (h : AddsDirs t t') (hp : t'.at? p = none) : AddsDirs t (t'.put p .dir) := by
  have hne : p ≠ [] := ne_root (t := t') (by simp [hp])
  refine ⟨h.cwd_eq, fun q n hq => ?_, fun q bytes hq => ?_⟩
  · have hqp : q ≠ p := by
      rintro rfl
      rw [h.keeps q n hq] at hp
      cases hp
    rw [at?_put hne, if_neg hqp]
    exact h.keeps q n hq
  · rw [at?_put hne] at hq
    split at hq
    · cases hq
    · exact h.file q bytes hq

theorem makeDirsFrom_adds {dir : Place} {below : List String} {t₀ : FileTree} (h : AddsDirs t₀ t)
    (hm : t.makeDirsFrom dir below = .ok t') : AddsDirs t₀ t' := by
  fun_induction makeDirsFrom t dir below with
  | case1 =>
    cases hm
    exact h
  | case2 t dir below ih | case3 t dir below ih => exact ih h hm
  | case4 t dir name below _ _ hd ih => exact ih h hm
  | case5 => cases hm
  | case6 t dir name below _ _ hn ih => exact ih (h.put_dir hn) hm

theorem makeDirs_adds (h : t.makeDirs path = .ok t') : AddsDirs t t' := makeDirsFrom_adds (.refl t) h

/-- Where the directories have been made nothing is left to be made. -/
theorem makeDirsFrom_made {t₁ t₂ : FileTree} {dir : Place} {below : List String} (h : t.makeDirsFrom dir below = .ok t₁)
    (hd : ∀ p, t₁.at? p = some .dir → t₂.at? p = some .dir) : t₂.makeDirsFrom dir below = .ok t₂ := by
  fun_induction makeDirsFrom t dir below with
  | case1 => rfl
  | case2 t dir below ih | case3 t dir below ih =>
    rw [makeDirsFrom]
    exact ih h
  | case4 t dir name below hdot hdots ha ih =>
    rw [makeDirsFrom.eq_4 _ _ _ _ hdot hdots, hd _ ((makeDirsFrom_adds (.refl t) h).keeps _ _ ha)]
    exact ih h
  | case5 => cases h
  | case6 t dir name below hdot hdots ha ih =>
    have hne : dir ++ [name] ≠ [] := by simp
    have hput : (t.put (dir ++ [name]) .dir).at? (dir ++ [name]) = some .dir := by rw [at?_put hne, if_pos rfl]
    rw [makeDirsFrom.eq_4 _ _ _ _ hdot hdots, hd _ ((makeDirsFrom_adds (.refl _) h).keeps _ _ hput)]
    exact ih h

theorem makeDirs_made {t₁ t₂ : FileTree} (h : t.makeDirs path = .ok t₁) (hc : t₂.cwd = t₁.cwd)
    (hd : ∀ p, t₁.at? p = some .dir → t₂.at? p = some .dir) : t₂.makeDirs path = .ok t₂ := by
  have hm := makeDirsFrom_made h hd
  rwa [← (makeDirs_adds h).cwd_eq, ← hc] at hm

theorem AddsDirs.spares (h : AddsDirs t t') (path : String) : Spares t path t' where
  kept n hs := by
    obtain ⟨p, hr, ha⟩ := stat_eq_ok.mp hs
    have hr' : t'.resolve path = .ok p := resolve_mono h.cwd_eq (fun q hq => h.keeps q _ hq) hr
      fun bytes hb => (resolve_eq_ok.mp hr).2.2 bytes (h.file p bytes hb)
    exact stat_eq_ok.mpr ⟨p, hr', h.keeps p n ha⟩
  place _ _ := place_mono h.cwd_eq fun q => h.keeps q _
  file p bytes _ := h.file p bytes

/-! Files written and moved -/

/-- What is written is a file where no directory stands. -/
theorem write_eq_ok (h : t.write path bytes = .ok t') : ∃ p, t.resolve path = .ok p ∧ t.at? p ≠ some .dir ∧
    path.endsWith "/" = false ∧ t' = t.put p (.file bytes) := by
  unfold write at h
  change (t.resolve path).bind _ = _ at h
  cases hr : t.resolve path with
  | error e => simp [hr, Except.bind] at h
  | ok p =>
    simp only [hr, Except.bind] at h
    refine ⟨p, rfl, ?_⟩
    split at h
    · cases h
    · rename_i old ha
      cases h
      exact ⟨by simp [ha], (resolve_eq_ok.mp hr).2.2 old ha, rfl⟩
    · rename_i ha
      split at h
      · cases h
      · rename_i hs
        cases h
        exact ⟨by simp [ha], by simpa using hs, rfl⟩

theorem rename_eq_ok (h : t.rename old new = .ok t') : ∃ p q bytes, t.resolve old = .ok p ∧
    t.resolve new = .ok q ∧ t.at? p = some (.file bytes) ∧ t.at? q ≠ some .dir ∧ new.endsWith "/" = false ∧
    t' = if p = q then t else (t.remove p).put q (.file bytes) := by
  unfold rename at h
  change (t.resolve old).bind (fun p => (t.resolve new).bind _) = _ at h
  cases hp : t.resolve old with
  | error e => simp [hp, Except.bind] at h
  | ok p =>
    cases hq : t.resolve new with
    | error e => simp [hp, hq, Except.bind] at h
    | ok q =>
      simp only [hp, hq, Except.bind] at h
      split at h
      · cases h
      · cases h
      · cases h
      · rename_i bytes hf hd
        split at h
        · cases h
        · rename_i hs
          cases h
          exact ⟨p, q, bytes, rfl, rfl, hf, fun hq => hd hq, by simpa using hs, rfl⟩

theorem write_of_resolve (hr : t.resolve path = .ok p) (hd : t.at? p ≠ some .dir) (hs : path.endsWith "/" = false) :
    t.write path bytes = .ok (t.put p (.file bytes)) := by
  unfold write
  change (t.resolve path).bind _ = _
  rw [hr]
  cases ha : t.at? p with
  | none => simp [Except.bind, ha, hs]
  | some n =>
    cases n with
    | dir => exact (hd ha).elim
    | file old => simp [Except.bind, ha]

theorem rename_of_resolve (hp : t.resolve old = .ok p) (hq : t.resolve new = .ok q) (hf : t.at? p = some (.file bytes))
    (hd : t.at? q ≠ some .dir) (hs : new.endsWith "/" = false) :
    t.rename old new = .ok (if p = q then t else (t.remove p).put q (.file bytes)) := by
  unfold rename
  change (t.resolve old).bind (fun p => (t.resolve new).bind _) = _
  rw [hp, hq]
  cases ha : t.at? q with
  | none => simp [Except.bind, hf, ha, hs]
  | some n =>
    cases n with
    | dir => exact (hd ha).elim
    | file b => simp [Except.bind, hf, ha, hs]

/-- Where no directory stood, a file is in nobody's way. -/
theorem dir_put (hd : t.at? p ≠ some .dir) (hq : t.at? q = some .dir) :
    (t.put p (.file bytes)).at? q = some .dir := by
  have hne : q ≠ p := by
    rintro rfl
    exact hd hq
  rw [at?_put (ne_root hd), if_neg hne, hq]

/-- Putting a file where none but a file stood changes no directory. -/
theorem dir_put_iff (hd : t.at? p ≠ some .dir) :
    (t.put p (.file bytes)).at? q = some .dir ↔ t.at? q = some .dir := by
  refine ⟨fun h => ?_, dir_put hd⟩
  rw [at?_put (ne_root hd)] at h
  split at h
  · cases h
  · exact h

theorem resolve_put (hr : t.resolve path = .ok q) (hd : t.at? p ≠ some .dir)
    (hs : q = p → path.endsWith "/" = false) : (t.put p (.file bytes)).resolve path = .ok q := by
  refine resolve_mono (t := t) rfl (fun _ => dir_put hd) hr fun b hb => ?_
  rw [at?_put (ne_root hd)] at hb
  split at hb
  · exact hs (by assumption)
  · exact (resolve_eq_ok.mp hr).2.2 b hb

theorem stat_write (h : t.write path bytes = .ok t') : t'.stat path = .ok (.file bytes) := by
  obtain ⟨p, hr, hd, hs, rfl⟩ := write_eq_ok h
  exact stat_eq_ok.mpr ⟨p, resolve_put hr hd fun _ => hs, by rw [at?_put (ne_root hd), if_pos rfl]⟩

/-- A file that is written leaves alone what other paths name. -/
theorem write_spares {t₀ : FileTree} (ha : AddsDirs t₀ t) (h : t.write old bytes = .ok t')
    (hne : t'.resolve new ≠ t'.resolve old) : Spares t₀ new t' := by
  obtain ⟨p, hr, hd, hs, rfl⟩ := write_eq_ok h
  rw [resolve_put hr hd fun _ => hs] at hne
  constructor
  case kept =>
    intro n hn
    obtain ⟨q, hq, hat⟩ := stat_eq_ok.mp ((ha.spares new).kept n hn)
    -- The file isn't where the path leads: a file there would be found by the path, and a directory is none.
    have hqp : q ≠ p := by
      rintro rfl
      cases n with
      | dir => exact hd hat
      | file b => exact hne (resolve_put hq hd fun _ => (resolve_eq_ok.mp hq).2.2 b hat)
    refine stat_eq_ok.mpr ⟨q, resolve_put hq hd fun he => (hqp he).elim, ?_⟩
    rw [at?_put (ne_root hd), if_neg hqp, hat]
  case place => exact fun _ _ => place_mono ha.cwd_eq fun q hq => dir_put hd (ha.keeps q _ hq)
  case file =>
    intro q b hq hb
    have hqp : q ≠ p := by
      rintro rfl
      exact hne hq
    rw [at?_put (ne_root hd), if_neg hqp] at hb
    exact ha.file q b hb

theorem read_eq_ok : t.read path = .ok b ↔ t.stat path = .ok (.file b) := by
  unfold read
  cases hs : t.stat path with
  | error e => simp [bind, Except.bind]
  | ok n => cases n <;> simp [bind, Except.bind]

theorem read_congr (h : t'.resolve path = t'.resolve old) : t'.read path = t'.read old := by
  simp only [read, stat, h]

/-- What is written into one file leaves alone what a path to another one finds. -/
theorem read_write_iff (h : t.write old bytes = .ok t') (hne : t'.resolve new ≠ t'.resolve old) :
    t'.read new = .ok b ↔ t.read new = .ok b := by
  simp only [read_eq_ok]
  refine ⟨fun hb => ?_, (write_spares (.refl t) h hne).kept _⟩
  obtain ⟨q, hq, hat⟩ := stat_eq_ok.mp hb
  obtain ⟨p, hr, hd, hs, rfl⟩ := write_eq_ok h
  rw [resolve_put hr hd fun _ => hs, hq] at hne
  rw [at?_put (ne_root hd), if_neg fun he => hne (congrArg _ he)] at hat
  refine stat_eq_ok.mpr ⟨q, resolve_mono (t := t.put p (.file bytes)) rfl (fun x hx => ?_) hq fun _ hf => ?_, hat⟩
  · exact (dir_put_iff hd).mp hx
  · exact (resolve_eq_ok.mp hq).2.2 b (by rw [at?_put (ne_root hd), if_neg fun he => hne (congrArg _ he), hat])

/-- A moved file is found under its new path. -/
theorem stat_rename (h : t.rename old new = .ok t') (hs : t.stat old = .ok (.file bytes)) :
    t'.stat new = .ok (.file bytes) := by
  obtain ⟨p, q, bytes', hp, hq, hf, hd, hslash, rfl⟩ := rename_eq_ok h
  obtain ⟨p', hp', hf'⟩ := stat_eq_ok.mp hs
  obtain rfl : p = p' := Except.ok.inj (hp.symm.trans hp')
  obtain rfl : bytes' = bytes := by simpa [hf] using hf'
  split
  · rename_i he
    exact stat_eq_ok.mpr ⟨q, hq, he ▸ hf⟩
  · have hroot : p ≠ [] := ne_root (t := t) (by simp [hf])
    have hdir : ∀ x, t.at? x = some .dir → (t.remove p).at? x = some .dir := by
      intro x hx
      have hxp : x ≠ p := by
        rintro rfl
        rw [hf] at hx
        cases hx
      rw [at?_remove hroot, if_neg hxp, hx]
    have hd' : (t.remove p).at? q ≠ some .dir := by
      rw [at?_remove hroot]
      split
      · simp
      · exact hd
    refine stat_eq_ok.mpr ⟨q, resolve_put ?_ hd' fun _ => hslash, by rw [at?_put (ne_root hd'), if_pos rfl]⟩
    exact resolve_mono (t := t) rfl hdir hq fun _ _ => hslash

/-- A file that can't be moved isn't in its place yet. -/
theorem resolve_ne_of_rename_error {e : FileError} (h : t.rename old new = .error e)
    (hs : t.stat old = .ok (.file bytes)) : t.resolve new ≠ t.resolve old := by
  obtain ⟨p, hp, hf⟩ := stat_eq_ok.mp hs
  intro he
  rw [hp] at he
  have hslash := (resolve_eq_ok.mp he).2.2 bytes hf
  unfold rename at h
  change (t.resolve old).bind (fun p => (t.resolve new).bind _) = _ at h
  simp [hp, he, hf, hslash, Except.bind] at h

end
end ProxyWatch.FileTree
