import ProxyWatch.Proofs.Registry.StateFile

/-! A registry and its state file. After every change that was saved the file holds what is in memory; a change that
could not be saved stays in memory and leaves the file alone until the next save. -/
namespace ProxyWatch

/-! Registries that can be stored -/

structure HealthUpdate.Storable (u : HealthUpdate) : Prop where
  failures_le : u.failures ≤ maxU32
  averageMs_le : ∀ n ∈ u.averageMs, n ≤ maxU64
  lastChecked_valid : ∀ t ∈ u.lastChecked, t.IsValid

/-- What the change sets can be stored. -/
def Change.Storable : Change → Prop
  | upsert e => e.Storable
  | setPriority _ priority => priority ≤ maxU32
  | health _ u => u.Storable
  | delete _ | setEnabled .. => True

namespace Registry

variable {r r' : Registry} {e : Endpoint} {id : String} {c : Change}

def Storable (r : Registry) : Prop := r.Every Endpoint.Storable

/-- A change that can be stored leaves a registry that can be stored. -/
theorem Storable.change (h : r.Storable) (hc : c.Storable) (he : r.change c = .ok (r', e)) : r'.Storable := by
  cases c with
  | upsert x =>
    cases he
    refine h.put ?_
    split
    · rename_i old hr
      have ho := h.of_find? hr
      exact ⟨hc.priority_le, ho.failures_le, ho.averageMs_le, ho.lastChecked_valid⟩
    · exact ⟨hc.priority_le, Nat.zero_le _, by simp [Endpoint.resetHealth], by simp [Endpoint.resetHealth]⟩
  | delete id => exact h.delete he
  | setEnabled id enabled =>
    exact h.modify (f := fun e => { e with enabled }) (fun e he => ⟨he.1, he.2, he.3, he.4⟩) he
  | setPriority id priority =>
    exact h.modify (f := fun e => { e with priority }) (fun e he => ⟨hc, he.2, he.3, he.4⟩) he
  | health id u => exact h.modify (f := (·.update u)) (fun e he => ⟨he.1, hc.1, hc.2, hc.3⟩) he

/-- What is found in a list of endpoints: the last one with the id. -/
theorem find?_foldl_put (es : List Endpoint) : (es.foldl put r).find? id =
    (es.reverse.find? (·.id == id)).or (r.find? id) := by
  induction es generalizing r with
  | nil => simp
  | cons e es ih =>
    rw [List.foldl_cons, ih, find?_put, List.reverse_cons, List.find?_append]
    by_cases he : e.id = id <;> simp [he]

/-- A registry is that of its own list. -/
theorem ofList_entries (r : Registry) : ofList r.entries = r := by
  refine ext_find? fun id => ?_
  have hempty : empty.find? id = none := rfl
  rw [ofList, find?_foldl_put, hempty, Option.or_none]
  cases hr : r.entries.reverse.find? (·.id == id) with
  | none =>
    refine (List.find?_eq_none.mpr fun e he => ?_).symm
    exact List.find?_eq_none.mp hr e (List.mem_reverse.mpr he)
  | some e =>
    have he : e ∈ r.entries := List.mem_reverse.mp (List.mem_of_find?_eq_some hr)
    have hid : e.id = id := by simpa using List.find?_some hr
    rw [← hid, find?_of_mem he]

theorem list_false (r : Registry) : r.list false = r.entries := by
  simp [list]

end Registry

/-! Changes that are saved, or not -/

/-- What becomes of a change. -/
inductive Outcome
  /-- There is no such endpoint. -/
  | missing
  | saved
  | unsaved
  deriving DecidableEq

/-- What becomes of a change whose save has come to an end. -/
def Outcome.ofSave : Except RegistryError Unit → Outcome
  | .ok () => .saved
  | .error _ => .unsaved

namespace Store

open StateFile

variable {s s' : Store} {t t' : FileTree} {path : String} {now : Timestamp} {c : Change} {e : Endpoint} {o : Outcome}
  {clean : Bool}

/-- A change of an opened registry, however its save comes out. -/
inductive Changing (s : Store) (t : FileTree) (path : String) (now : Timestamp) (c : Change) :
    Store → FileTree → Outcome → Prop
  | missing {err : RegistryError} (h : s.registry.change c = .error err) : Changing s t path now c s t .missing
  | saved {r : Registry} {e : Endpoint} {t' : FileTree} (h : s.registry.change c = .ok (r, e))
      (hs : Saving t path now r.entries t' true) : Changing s t path now c { s with registry := r } t' .saved
  | unsaved {r : Registry} {e : Endpoint} {t' : FileTree} (h : s.registry.change c = .ok (r, e))
      (hs : Saving t path now r.entries t' false) : Changing s t path now c { s with registry := r } t' .unsaved

/-- What has happened since a registry was opened: the registry and the files as they are now, and whether all
changes were saved. Meanwhile others may touch the files, but not the state file. -/
inductive Run (path : String) : Store → FileTree → Bool → Prop
  | opened {s : Store} {t : FileTree} (h : openAt t path = .ok s) : Run path s t true
  | changed {s s' : Store} {t t' : FileTree} {clean : Bool} {now : Timestamp} {c : Change} {o : Outcome}
      (hr : Run path s t clean) (hn : now.IsValid) (hs : c.Storable)
      (hc : Changing s t path now c s' t' o) : Run path s' t' (clean && o != .unsaved)
  | around {s : Store} {t t' : FileTree} {clean : Bool} (hr : Run path s t clean)
      (h : ∀ n, t'.stat path = .ok n ↔ t.stat path = .ok n) : Run path s t' clean

theorem openAt_of_load {es : List Endpoint} (h : load t path = .ok es) :
    openAt t path = .ok { registry := .ofList es, path := some path } := by
  simp [openAt, h, bind, Except.bind, pure, Except.pure]

theorem load_of_openAt (h : openAt t path = .ok s) : ∃ es, load t path = .ok es ∧
    s = { registry := .ofList es, path := some path } := by
  cases hl : load t path with
  | error e => simp [openAt, hl, bind, Except.bind] at h
  | ok es =>
    rw [openAt_of_load hl] at h
    exact ⟨es, rfl, (Except.ok.inj h).symm⟩

/-- A registry that was opened can be stored, and knows its state file. -/
theorem Run.storable (h : Run path s t clean) : s.registry.Storable ∧ s.path = some path := by
  induction h with
  | opened h =>
    obtain ⟨es, hl, rfl⟩ := load_of_openAt h
    exact ⟨Registry.every_ofList (storable_of_load hl), rfl⟩
  | changed _ _ hs hc ih =>
    cases hc with
    | missing => exact ih
    | saved h | unsaved h => exact ⟨ih.1.change hs h, ih.2⟩
  | around _ _ ih => exact ih

theorem opened_of_saved {r : Registry} (hn : now.IsValid) (hr : r.Storable) (hp : s.path = some path)
    (h : Saving t path now r.entries t' true) :
    openAt t' path = .ok { s with registry := r } ∧ load t' path = .ok (r.list false) := by
  cases h with
  | whole h =>
    have hl := load_of_stat (stat_of_save h) hn hr
    rw [openAt_of_load hl, Registry.ofList_entries, hl, Registry.list_false, ← hp]
    exact ⟨rfl, rfl⟩

theorem Run.loaded (h : Run path s t clean) (hc : clean = true) : openAt t path = .ok s := by
  induction h with
  | opened h => exact h
  | changed hr hn hs hch ih =>
    obtain ⟨hclean, ho⟩ := Bool.and_eq_true_iff.mp hc
    cases hch with
    | missing => exact ih hclean
    | saved h hsave => exact (opened_of_saved hn (hr.storable.1.change hs h) hr.storable.2 hsave).1
    | unsaved => simp at ho
  | around _ h ih =>
    rw [openAt, load_congr h]
    exact ih hc

/-- The program's save is one of the ways in which a save can come out, -/
theorem changing_of_save {r : Registry} (hc : s.registry.change c = .ok (r, e)) :
    Changing s t path now c { s with registry := r } (save t path now r.entries).1
      (.ofSave (save t path now r.entries).2) := by
  cases h : save t path now r.entries with
  | mk t' x =>
    cases x with
    | ok => exact .saved hc (.whole h)
    | error err => exact .unsaved hc (.failed h)

/-- What the program does belongs to a history, in which a change is unsaved if its save fails. -/
theorem Run.change (h : Run path s t clean) (hn : now.IsValid) (hs : c.Storable)
    (hc : s.change t now c = .ok (s', t', e)) :
    Run path s' t' (clean && (save t path now s'.registry.entries).2.isOk) := by
  obtain ⟨hr, hcommit⟩ := change_eq_ok hc
  rw [commit_eq h.storable.2] at hcommit
  obtain ⟨hstore, htree⟩ := Prod.mk.inj hcommit
  have hrun := h.changed hn hs (changing_of_save hr)
  rw [hstore, htree] at hrun
  cases hsave : (save t path now s'.registry.entries).2 <;> rwa [hsave] at hrun

end Store
end ProxyWatch
