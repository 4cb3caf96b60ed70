import ProxyWatch.Proofs.PathText
import ProxyWatch.Proofs.Registry.StateFile

/-! Saves that are broken off. What is found under the path is the old content or the new document, unless the temporary
file is the state file itself, or the directories that a save makes lead the path to a file it didn't lead to. -/
namespace ProxyWatch

namespace StateFile

open FileTree

/-- A step that is broken off: some of the directories are made, or some of the bytes are written. A file is moved at
once. -/
inductive SaveStep.Partial (t : FileTree) : SaveStep → FileTree → Prop
  | makeDirs {path : String} {t' : FileTree} (k : Nat)
      (h : t.makeDirsFrom (t.base path) ((names path).take k) = .ok t') : Partial t (.makeDirs path) t'
  | write {path : String} {bytes : ByteArray} {t' : FileTree} (k : Nat)
      (h : t.write path (bytes.extract 0 k) = .ok t') : Partial t (.write path bytes) t'

/-- What a save leaves that is broken off anywhere. -/
inductive Interrupted (t : FileTree) (path : String) (now : Timestamp) (es : List Endpoint) : FileTree → Prop
  | between {before after : List SaveStep} {t' : FileTree} (hs : saveSteps path now es = before ++ after)
      (h : runSteps t before = (t', .ok ())) : Interrupted t path now es t'
  | within {before after : List SaveStep} {s : SaveStep} {t₁ t' : FileTree}
      (hs : saveSteps path now es = before ++ s :: after) (h : runSteps t before = (t₁, .ok ()))
      (hp : s.Partial t₁ t') : Interrupted t path now es t'

/-- The path finds the content that it found before, or none as before, or the new document. -/
def Intact (t : FileTree) (path : String) (now : Timestamp) (es : List Endpoint) (t' : FileTree) : Prop :=
  (∀ b, t'.read path = .ok b ↔ t.read path = .ok b) ∨ t'.read path = .ok (content now es)

/-- Some of the directories for the path are made, or none. -/
def DirsBegun (t : FileTree) (path : String) (t' : FileTree) : Prop :=
  t' = t ∨ ∃ dir k, PathText.parent? path = some dir ∧ t.makeDirsFrom (t.base dir) ((names dir).take k) = .ok t'

/-- With some directories made the path finds a file that it did not find. -/
def Exposed (t : FileTree) (path : String) : Prop :=
  ∃ t' b, DirsBegun t path t' ∧ t'.read path = .ok b ∧ t.read path ≠ .ok b

/-- The temporary file can be written, and is the state file itself. -/
def SelfWritten (t : FileTree) (path : String) : Prop :=
  ∃ t₁ t₂ bytes, runSteps t (dirSteps path) = (t₁, .ok ()) ∧ t₁.write (temporary path) bytes = .ok t₂ ∧
    t₂.resolve path = t₂.resolve (temporary path)

section
variable {t t' t₁ : FileTree} {path : String} {now : Timestamp} {es : List Endpoint} {b : ByteArray}

theorem DirsBegun.adds (h : DirsBegun t path t') : t.AddsDirs t' := by
  rcases h with rfl | ⟨dir, k, -, h⟩
  · exact .refl _
  · exact makeDirsFrom_adds (.refl t) h

theorem DirsBegun.of_dirSteps (h : runSteps t (dirSteps path) = (t', .ok ())) : DirsBegun t path t' := by
  unfold dirSteps at h
  split at h
  · rename_i dir hd
    obtain ⟨t₁, hm, he⟩ := runSteps_cons_ok h
    cases he
    exact .inr ⟨dir, (names dir).length, hd, by rwa [List.take_length]⟩
  · cases h
    exact .inl rfl

theorem DirsBegun.read_iff (h : DirsBegun t path t') (he : ¬ Exposed t path) :
    t'.read path = .ok b ↔ t.read path = .ok b := by
  refine ⟨fun hb => by_contra fun hn => he ⟨t', b, h, hb, hn⟩, fun hb => ?_⟩
  exact read_eq_ok.mpr ((h.adds.spares path).kept _ (read_eq_ok.mp hb))

/-- Where the steps of a save can be divided. -/
theorem saveSteps_cases {before after : List SaveStep} (h : saveSteps path now es = before ++ after) :
    (∃ dir, PathText.parent? path = some dir ∧ before = [] ∧ after.head? = some (.makeDirs dir)) ∨
    (before = dirSteps path ∧ after.head? = some (.write (temporary path) (content now es))) ∨
    (before = dirSteps path ++ [.write (temporary path) (content now es)] ∧
      after.head? = some (.rename (temporary path) path)) ∨
    (before = saveSteps path now es ∧ after = []) := by
  have h := h.symm
  unfold saveSteps dirSteps at *
  cases hp : PathText.parent? path with
  | none =>
    match before with
    | [] | [_] | [_, _] => simp_all
    | _ :: _ :: _ :: _ => simp [hp] at h
  | some dir =>
    match before with
    | [] | [_] | [_, _] | [_, _, _] => simp_all
    | _ :: _ :: _ :: _ :: _ => simp [hp] at h

theorem write_of_runSteps
    (h : runSteps t (dirSteps path ++ [.write (temporary path) (content now es)]) = (t', .ok ())) :
    ∃ t₁, runSteps t (dirSteps path) = (t₁, .ok ()) ∧
      t₁.write (temporary path) ((content now es).extract 0 (content now es).size) = .ok t' := by
  obtain ⟨_, -, he⟩ | ⟨t₁, hd, h⟩ := runSteps_append h
  · cases he
  · obtain ⟨t₂, hw, h⟩ := runSteps_cons_ok h
    cases h
    exact ⟨t₁, hd, by rwa [ByteArray.extract_zero_size]⟩

/-- Where a save can be broken off: in making the directories, in writing the temporary file, or not at all. -/
theorem interrupted_cases (h : Interrupted t path now es t') : DirsBegun t path t' ∨
    (∃ t₁ k, runSteps t (dirSteps path) = (t₁, .ok ()) ∧
      t₁.write (temporary path) ((content now es).extract 0 k) = .ok t') ∨ save t path now es = (t', .ok ()) := by
  cases h with
  | between hs h =>
    obtain ⟨_, -, rfl, -⟩ | ⟨rfl, -⟩ | ⟨rfl, -⟩ | ⟨rfl, -⟩ := saveSteps_cases hs
    · cases h
      exact .inl (.inl rfl)
    · exact .inl (.of_dirSteps h)
    · obtain ⟨t₁, h⟩ := write_of_runSteps h
      exact .inr (.inl ⟨t₁, _, h⟩)
    · exact .inr (.inr h)
  | within hs h hp =>
    obtain ⟨dir, hdir, rfl, ha⟩ | ⟨rfl, ha⟩ | ⟨rfl, ha⟩ | ⟨-, ha⟩ := saveSteps_cases hs
    · cases h
      cases ha
      cases hp with
      | makeDirs k hm => exact .inl (.inr ⟨dir, k, hdir, hm⟩)
    · cases ha
      cases hp with
      | write k hw => exact .inr (.inl ⟨_, k, h, hw⟩)
    · cases ha
      cases hp
    · cases ha

theorem DirsBegun.interrupted (h : DirsBegun t path t') : Interrupted t path now es t' := by
  rcases h with rfl | ⟨dir, k, hp, hm⟩
  · exact .between (List.nil_append _).symm rfl
  · have hs : saveSteps path now es = [] ++ .makeDirs dir :: [.write (temporary path) (content now es),
        .rename (temporary path) path] := by
      rw [saveSteps, hp]
      rfl
    exact .within hs rfl (.makeDirs k hm)

theorem interrupted_write {k : Nat} (hd : runSteps t (dirSteps path) = (t₁, .ok ()))
    (hw : t₁.write (temporary path) ((content now es).extract 0 k) = .ok t') : Interrupted t path now es t' :=
  have hs : saveSteps path now es = dirSteps path ++ .write (temporary path) (content now es) ::
    [.rename (temporary path) path] := rfl
  .within hs hd (.write k hw)

/-- A save that fails is one that is broken off. -/
theorem interrupted_save (t : FileTree) (path : String) (now : Timestamp) (es : List Endpoint) :
    Interrupted t path now es (save t path now es).1 := by
  suffices h : ∀ steps t, ∃ before after, steps = before ++ after ∧
      runSteps t before = ((runSteps t steps).1, .ok ()) by
    obtain ⟨before, after, hs, h⟩ := h (saveSteps path now es) t
    exact .between hs h
  intro steps
  induction steps with
  | nil => exact fun t => ⟨[], [], rfl, rfl⟩
  | cons s steps ih =>
    intro t
    rw [runSteps]
    cases hs : s.run t with
    | error e => exact ⟨[], _, rfl, rfl⟩
    | ok t₁ =>
      obtain ⟨before, after, rfl, h⟩ := ih t₁
      exact ⟨s :: before, after, rfl, by rw [runSteps, hs]; exact h⟩

/-! Neither defect -/

theorem intact_of_not (he : ¬ Exposed t path) (hw : ¬ SelfWritten t path) (h : Interrupted t path now es t') :
    Intact t path now es t' := by
  obtain hd | ⟨t₁, k, hd, h⟩ | h := interrupted_cases h
  · exact .inl fun b => hd.read_iff he
  · have hne : t'.resolve path ≠ t'.resolve (temporary path) := fun hr => hw ⟨t₁, t', _, hd, h, hr⟩
    exact .inl fun b => (read_write_iff h hne).trans ((DirsBegun.of_dirSteps hd).read_iff he)
  · exact .inr (read_eq_ok.mpr (stat_of_save h))

/-! One of them -/

/-- Two documents that differ. -/
theorem exists_content_ne (b : ByteArray) : ∃ now es, content now es ≠ b := by
  let now : Timestamp := ⟨2024, 1, 1, 0, 0, 0, 0⟩
  let e : Endpoint := { id := "a", url := "http://a:1", priority := 0 }
  by_contra! h
  have hn : now.IsValid := by decide
  have he : e.Storable := ⟨by decide, by decide, by simp [e], by simp [e]⟩
  have hsame : (document now []).pretty = (document now [e]).pretty :=
    String.toByteArray_inj.mp ((h now []).trans (h now [e]).symm)
  have hread : decode (document now []).pretty = .ok [] := decode_document hn (by simp)
  rw [hsame, decode_document hn (by simp [he])] at hread
  cases hread

theorem not_exposed (h : ∀ now es t', Interrupted t path now es t' → Intact t path now es t') : ¬ Exposed t path := by
  rintro ⟨t', b, hd, hb, hn⟩
  obtain ⟨now, es, hne⟩ := exists_content_ne b
  rcases h now es t' hd.interrupted with hi | hi
  · exact hn ((hi b).mp hb)
  · exact hne (Except.ok.inj (hi.symm.trans hb))

/-- A cut document is found under the path. -/
theorem SelfWritten.cut (h : SelfWritten t path) (now : Timestamp) (es : List Endpoint) (k : Nat) :
    ∃ t', Interrupted t path now es t' ∧ t'.read path = .ok ((content now es).extract 0 k) := by
  obtain ⟨t₁, t₂, bytes, hd, hw, hr⟩ := h
  obtain ⟨p, hp, hnot, hs, rfl⟩ := write_eq_ok hw
  have hw : t₁.write (temporary path) ((content now es).extract 0 k) = .ok _ := write_of_resolve hp hnot hs
  rw [resolve_put hp hnot fun _ => hs] at hr
  have hend := (resolve_eq_ok.mp hr).2.2 bytes (by rw [at?_put (ne_root hnot), if_pos rfl])
  refine ⟨_, interrupted_write hd hw, (read_congr ?_).trans (read_eq_ok.mpr (stat_write hw))⟩
  rw [resolve_put hp hnot fun _ => hs]
  exact resolve_mono (t := t₁.put p (.file bytes)) rfl
    (fun x hx => (dir_put_iff hnot).mpr ((dir_put_iff hnot).mp hx)) hr fun _ _ => hend

theorem not_selfWritten (h : ∀ now es t', Interrupted t path now es t' → Intact t path now es t') :
    ¬ SelfWritten t path := by
  intro hw
  let now : Timestamp := ⟨2024, 1, 1, 0, 0, 0, 0⟩
  have hsize : 1 < (content now []).size := by decide +kernel
  -- What is cut before its end is no document, so that it must have been there before.
  have hold : ∀ k ≤ 1, t.read path = .ok ((content now []).extract 0 k) := by
    intro k hk
    obtain ⟨t', hi, hr⟩ := hw.cut now [] k
    rcases h now [] t' hi with hi | hi
    · exact (hi _).mp hr
    · have hs := congrArg ByteArray.size (Except.ok.inj (hr.symm.trans hi))
      rw [ByteArray.size_extract] at hs
      omega
  have hs := congrArg ByteArray.size (Except.ok.inj ((hold 0 (by decide)).symm.trans (hold 1 (by decide))))
  rw [ByteArray.size_extract, ByteArray.size_extract] at hs
  omega

/-! Paths without defects -/

theorem not_exposed_of_sound (hs : t.Sound) (hp : ".." ∉ names path) : ¬ Exposed t path := by
  rintro ⟨t', b, hd, hb, hn⟩
  obtain ⟨p, hr, ha⟩ := stat_eq_ok.mp (read_eq_ok.mp hb)
  obtain ⟨he, hw, hend⟩ := resolve_eq_ok.mp hr
  have ht := hd.adds.file p b ha
  have hbase : t'.base path = t.base path := by rw [base, base, hd.adds.cwd_eq]
  refine hn (read_eq_ok.mpr (stat_eq_ok.mpr ⟨p, resolve_eq_ok.mpr ⟨he, ?_, fun _ _ => hend b ha⟩, ht⟩))
  rw [← hbase]
  exact walk_of_file hs hp hw ht ha

theorem way_eq_of_selfWritten (hp : ".." ∉ names path) (h : SelfWritten t path) : way (temporary path) = way path := by
  obtain ⟨t₁, t₂, bytes, -, hw, hr⟩ := h
  obtain ⟨p, hq, hd, hs, rfl⟩ := write_eq_ok hw
  rw [resolve_put hq hd fun _ => hs] at hr
  have htarget := walk_eq_append hp (resolve_eq_ok.mp hr).2.1
  have htemp := walk_eq_append (PathText.no_way_up_withExtension (by decide) (by decide) hp) (resolve_eq_ok.mp hq).2.1
  have hbase : t₁.base (temporary path) = t₁.base path := PathText.base_withExtension t₁ (by decide)
  rw [hbase] at htemp
  exact List.append_cancel_left (htemp.symm.trans htarget)

/-- A save that is broken off leaves the old content or the new document, for all that is saved, exactly if the path has
neither of the two defects. A path that doesn't lead upwards has the first one never, and the second one only if its
last name has the extension of the temporary file. -/
theorem interrupted_intact_iff (t : FileTree) (path : String) :
    ((∀ now es t', Interrupted t path now es t' → Intact t path now es t') ↔ ¬ Exposed t path ∧ ¬ SelfWritten t path) ∧
    (t.Sound → ".." ∉ names path → ¬ Exposed t path ∧ (SelfWritten t path → way (temporary path) = way path)) ∧
    ∀ now es, Interrupted t path now es (save t path now es).1 :=
  ⟨⟨fun h => ⟨not_exposed h, not_selfWritten h⟩, fun h _ _ _ => intact_of_not h.1 h.2⟩,
    fun hs hp => ⟨not_exposed_of_sound hs hp, way_eq_of_selfWritten hp⟩, interrupted_save t path⟩

/-- A state file in a directory that is missing. -/
theorem interrupted_intact_iff_plain :
    Sound {} ∧ ".." ∉ names "state/registry.json" ∧
      ∀ now es t', Interrupted {} "state/registry.json" now es t' → Intact {} "state/registry.json" now es t' := by
  have hs : Sound {} := by
    intro p name n h
    simp [at?] at h
  have hp : ".." ∉ names "state/registry.json" := by decide +kernel
  obtain ⟨hiff, hplain, -⟩ := interrupted_intact_iff {} "state/registry.json"
  obtain ⟨he, hw⟩ := hplain hs hp
  exact ⟨hs, hp, hiff.mpr ⟨he, fun h => absurd (hw h) (by decide +kernel)⟩⟩

/-- A state file with the extension of the temporary file is cut after its first byte. Where the path leads upwards from
a missing directory, a save that can't write its temporary file makes that directory, and so the path leads to a cut
file that it didn't lead to. -/
theorem interrupted_not_intact :
    (let now : Timestamp := ⟨2024, 1, 1, 0, 0, 0, 0⟩
      let t : FileTree := { nodes := [(["r.tmp"], .file "old".toUTF8)] }
      ∃ t', Interrupted t "r.tmp" now [] t' ∧ t'.read "r.tmp" = .ok ((content now []).extract 0 1) ∧
        ¬ Intact t "r.tmp" now [] t') ∧
    (let now : Timestamp := ⟨2024, 1, 1, 0, 0, 0, 0⟩
      let t : FileTree := { nodes := [(["r.tmp"], .dir), (["r.json"], .file "cut".toUTF8)] }
      Interrupted t "new/../r.json" now [] (save t "new/../r.json" now []).1 ∧
        ¬ Intact t "new/../r.json" now [] (save t "new/../r.json" now []).1) := by
  constructor
  · intro now t
    have hwritten : t.write (temporary "r.tmp") .empty = .ok (t.put ["r.tmp"] (.file .empty)) :=
      write_of_resolve (by decide +kernel) (by simp [t, at?]) (by decide +kernel)
    have hdirs : runSteps t (dirSteps "r.tmp") = (t, .ok ()) := by
      have hparent : PathText.parent? "r.tmp" = some "" := by decide +kernel
      have hnames : names "" = [] := by decide +kernel
      simp only [dirSteps, hparent, runSteps, SaveStep.run, makeDirs, hnames, makeDirsFrom]
    have hself : SelfWritten t "r.tmp" := ⟨t, _, .empty, hdirs, hwritten, by decide +kernel⟩
    obtain ⟨t', hi, hr⟩ := hself.cut now [] 1
    refine ⟨t', hi, hr, ?_⟩
    rintro (h | h)
    · exact absurd ((h _).mp hr) (by decide +kernel)
    · rw [hr] at h
      exact absurd h (by decide +kernel)
  · intro now t
    refine ⟨interrupted_save .., ?_⟩
    have hr : (save t "new/../r.json" now []).1.read "new/../r.json" = .ok "cut".toUTF8 := by decide +kernel
    rintro (h | h)
    · exact absurd ((h _).mp hr) (by decide +kernel)
    · rw [hr] at h
      exact absurd h (by decide +kernel)

end
end StateFile
end ProxyWatch
