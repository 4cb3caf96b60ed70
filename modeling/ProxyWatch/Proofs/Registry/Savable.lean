import ProxyWatch.Proofs.Registry.StateFile

/-! Whether a save succeeds hangs on the path and the directories, not on what is saved. Where one save succeeded the
next one does. -/
namespace ProxyWatch

namespace StateFile

open FileTree

variable {t t' : FileTree} {path : String} {now : Timestamp} {es : List Endpoint}

/-- A save at the path succeeds, whatever is saved. -/
def Savable (t : FileTree) (path : String) : Prop := ∀ now es, ∃ t', save t path now es = (t', .ok ())

/-- The temporary file can be written and then moved to the path, the directories being made. -/
structure Writable (t : FileTree) (path : String) (p q : Place) : Prop where
  temporary : t.resolve (temporary path) = .ok p
  not_dir : t.at? p ≠ some .dir
  temporary_name : (StateFile.temporary path).endsWith "/" = false
  target : ∀ bytes, (t.put p (.file bytes)).resolve path = .ok q
  target_not_dir : ∀ bytes, (t.put p (.file bytes)).at? q ≠ some .dir
  name : path.endsWith "/" = false

/-- What a save leaves of a tree in which the directories are made. -/
def written (t : FileTree) (p q : Place) (bytes : ByteArray) : FileTree :=
  if p = q then t.put p (.file bytes) else ((t.put p (.file bytes)).remove p).put q (.file bytes)

theorem runSteps_append_of_ok {t₁ : FileTree} {a b : List SaveStep} (h : runSteps t a = (t₁, .ok ())) :
    runSteps t (a ++ b) = runSteps t₁ b := by
  induction a generalizing t with
  | nil =>
    cases h
    rfl
  | cons s a ih =>
    rw [List.cons_append, runSteps]
    rw [runSteps] at h
    split at h
    · exact ih h
    · cases h

theorem Writable.save_eq {t₁ : FileTree} {p q : Place} (hd : runSteps t (dirSteps path) = (t₁, .ok ()))
    (h : Writable t₁ path p q) (now : Timestamp) (es : List Endpoint) :
    save t path now es = (written t₁ p q (content now es), .ok ()) := by
  have hw : t₁.write (StateFile.temporary path) (content now es) = .ok (t₁.put p (.file (content now es))) :=
    write_of_resolve h.temporary h.not_dir h.temporary_name
  have hm := rename_of_resolve (resolve_put h.temporary h.not_dir fun _ => h.temporary_name) (h.target (content now es))
    (by rw [at?_put (ne_root h.not_dir), if_pos rfl]) (h.target_not_dir _) h.name
  rw [save, show saveSteps path now es = dirSteps path ++ _ from rfl, runSteps_append_of_ok hd]
  simp only [runSteps, SaveStep.run, hw, hm, written]

theorem exists_writable (h : save t path now es = (t', .ok ())) : ∃ t₁ p q,
    runSteps t (dirSteps path) = (t₁, .ok ()) ∧ Writable t₁ path p q := by
  obtain ⟨e, -, he⟩ | ⟨t₁, hdirs, h⟩ := runSteps_append (a := dirSteps path) h
  · cases he
  obtain ⟨t₂, hw, h⟩ := runSteps_cons_ok h
  obtain ⟨t₃, hm, -⟩ := runSteps_cons_ok h
  obtain ⟨p, hr, hd, hs, rfl⟩ := write_eq_ok hw
  obtain ⟨_, q, _, _, hq, _, hdq, hslash, _⟩ := rename_eq_ok hm
  refine ⟨t₁, p, q, hdirs, hr, hd, hs, fun bytes => ?_, fun bytes hb => hdq ?_, hslash⟩
  · exact resolve_mono (t := t₁.put p (.file (content now es))) rfl
      (fun x hx => (dir_put_iff hd).mpr ((dir_put_iff hd).mp hx)) hq fun _ _ => hslash
  · exact (dir_put_iff hd).mpr ((dir_put_iff hd).mp hb)

/-- Where one save succeeds every save does. -/
theorem savable_of_save (h : (save t path now es).2.isOk = true) : Savable t path := by
  cases hs : save t path now es with
  | mk t' r =>
    rw [hs] at h
    cases r with
    | ok =>
      obtain ⟨t₁, p, q, hd, hw⟩ := exists_writable hs
      exact fun now es => ⟨_, hw.save_eq hd now es⟩
    | error => cases h

section
variable {p q x : Place} {bytes : ByteArray}

@[simp] theorem cwd_written : (written t p q bytes).cwd = t.cwd := by
  unfold written
  split <;> rfl

theorem Writable.at?_written (h : Writable t path p q) : (written t p q bytes).at? x =
    if x = q then some (.file bytes) else if x = p then none else t.at? x := by
  have hp : p ≠ [] := ne_root h.not_dir
  have hq : q ≠ [] := ne_root (h.target_not_dir bytes)
  unfold written
  split
  · rename_i he
    subst he
    rw [at?_put hp]
    split <;> rfl
  · rw [at?_put hq, at?_remove hp, at?_put hp]
    split
    · rfl
    · split <;> rfl

/-- The directories stay as they were. -/
theorem Writable.dir_written (h : Writable t path p q) (hx : t.at? x = some .dir) :
    (written t p q bytes).at? x = some .dir := by
  have hxp : x ≠ p := fun he => h.not_dir (he ▸ hx)
  have hxq : x ≠ q := fun he => h.target_not_dir bytes ((dir_put_iff h.not_dir).mpr (he ▸ hx))
  rw [h.at?_written, if_neg hxq, if_neg hxp, hx]

/-- Both files can be written again. -/
theorem Writable.again (h : Writable t path p q) : Writable (written t p q bytes) path p q := by
  have hnot : (written t p q bytes).at? p ≠ some .dir := by
    rw [h.at?_written]
    split <;> simp
  constructor
  case temporary => exact resolve_mono cwd_written (fun _ => h.dir_written) h.temporary fun _ _ => h.temporary_name
  case not_dir => exact hnot
  case temporary_name => exact h.temporary_name
  case target =>
    intro bytes'
    refine resolve_mono (t := t.put p (.file bytes)) cwd_written (fun x hx => ?_) (h.target bytes) fun _ _ => h.name
    exact (dir_put_iff hnot).mpr (h.dir_written ((dir_put_iff h.not_dir).mp hx))
  case target_not_dir =>
    intro bytes' hb
    rw [dir_put_iff hnot, h.at?_written, if_pos rfl] at hb
    cases hb
  case name => exact h.name

end

/-- Directories that a save has made need not be made again. -/
theorem dirSteps_made {t₁ t₂ : FileTree} (h : runSteps t (dirSteps path) = (t₁, .ok ())) (hc : t₂.cwd = t₁.cwd)
    (hd : ∀ p, t₁.at? p = some .dir → t₂.at? p = some .dir) : runSteps t₂ (dirSteps path) = (t₂, .ok ()) := by
  unfold dirSteps at h ⊢
  split at h
  · obtain ⟨_, hm, he⟩ := runSteps_cons_ok h
    cases he
    simp only [runSteps, SaveStep.run, makeDirs_made hm hc hd]
  · rfl

/-- After a save that succeeded the next one succeeds. -/
theorem savable_again (h : save t path now es = (t', .ok ())) : Savable t' path := by
  obtain ⟨t₁, p, q, hd, hw⟩ := exists_writable h
  obtain rfl : written t₁ p q (content now es) = t' := (Prod.mk.inj ((hw.save_eq hd now es).symm.trans h)).1
  have hm : runSteps (written t₁ p q (content now es)) (dirSteps path) = (written t₁ p q (content now es), .ok ()) :=
    dirSteps_made hd cwd_written fun _ => hw.dir_written
  exact fun now es => ⟨_, hw.again.save_eq hm now es⟩

end StateFile
end ProxyWatch
