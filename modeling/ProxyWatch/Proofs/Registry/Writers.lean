import ProxyWatch.Proofs.Progress
import ProxyWatch.Proofs.Registry.Durable
import ProxyWatch.Proofs.Registry.Savable

/-! Changes of a registry that several callers make at once. Each changes the registry in memory first; then, one at a
time, they read what the registry holds by then and save it. What is saved never goes back to an older version. -/
namespace ProxyWatch.Writers

/-- How far a change has come. -/
inductive Stage
  | waiting
  /-- It has changed the registry, which is to be saved. -/
  | changed
  /-- It has the lock of the state file. -/
  | locked
  /-- It has read the version of the registry with this number. -/
  | read (version : Nat) (es : List Endpoint)
  /-- It is to give the lock back. -/
  | saved
  | done

namespace Stage

/-- The change has the lock of the state file. -/
def Holds : Stage → Prop
  | locked | read .. | saved => True
  | _ => False

/-- The change is going to save the version with this number, or a later one. -/
def Owes (version : Nat) : Stage → Prop
  | changed | locked => True
  | read version' _ => version ≤ version'
  | _ => False

/-- How many steps are left to a change at most. -/
def rank : Stage → Nat
  | waiting => 5
  | changed => 4
  | locked => 3
  | read .. => 2
  | saved => 1
  | done => 0

end Stage

/-- Callers at work. Versions of the registry are numbered from 0 on. -/
structure Scene (changes : List Change) where
  registry : Registry
  /-- The earlier versions of the registry. -/
  past : List Registry := []
  files : FileTree
  /-- What has been saved, and the number of the version that it was read from. -/
  saves : List (Nat × List Endpoint) := []
  stage : Fin changes.length → Stage

namespace Scene

variable {changes : List Change}

/-- No change has begun. -/
def start (r : Registry) (t : FileTree) (changes : List Change) : Scene changes :=
  { registry := r, files := t, stage := fun _ => .waiting }

def set (s : Scene changes) (i : Fin changes.length) (x : Stage) : Scene changes :=
  { s with stage := Function.update s.stage i x }

def versions (s : Scene changes) : List Registry := s.past ++ [s.registry]

/-- The number of the version in the state file. -/
def filed (s : Scene changes) : Nat :=
  match s.saves.getLast? with
  | some x => x.1
  | none => 0

/-- Every change has returned. -/
def Complete (s : Scene changes) : Prop := ∀ i, s.stage i = .done

end Scene

/-- One change goes on by one step. -/
inductive Step (path : String) {changes : List Change} (s : Scene changes) : Scene changes → Prop
  | change {i r e} (hw : s.stage i = .waiting) (h : s.registry.change (changes.get i) = .ok (r, e)) :
      Step path s { s.set i .changed with registry := r, past := s.versions }
  /-- The endpoint isn't stored: there is nothing to be done. -/
  | refuse {i err} (hw : s.stage i = .waiting) (h : s.registry.change (changes.get i) = .error err) :
      Step path s (s.set i .done)
  | lock {i} (hs : s.stage i = .changed) (hf : ∀ j, ¬ (s.stage j).Holds) : Step path s (s.set i .locked)
  | read {i} (hs : s.stage i = .locked) : Step path s (s.set i (.read s.past.length s.registry.entries))
  | save {i k es now files} (hs : s.stage i = .read k es) (hn : now.IsValid)
      (h : StateFile.save s.files path now es = (files, .ok ())) :
      Step path s { s.set i .saved with files := files, saves := s.saves ++ [(k, es)] }
  | unlock {i} (hs : s.stage i = .saved) : Step path s (s.set i .done)

/-- The steps of several changes, in any order that the lock allows. -/
abbrev Steps (path : String) {changes : List Change} : Scene changes → Scene changes → Prop :=
  Relation.ReflTransGen (Step path)

/-- What is saved follows what is in memory. -/
structure InOrder {changes : List Change} (path : String) (s : Scene changes) : Prop where
  /-- What has been saved are versions of the registry, as they were read. -/
  versions : ∀ x ∈ s.saves, s.versions[x.1]?.map Registry.entries = some x.2
  /-- A version is saved after all that came before it. -/
  ordered : (s.saves.map (·.1)).Pairwise (· ≤ ·)
  /-- The state file holds the version that was saved last. -/
  opened : ∃ r, s.versions[s.filed]? = some r ∧
    Store.openAt s.files path = .ok { registry := r, path := some path }
  loaded : ∀ x ∈ s.saves.getLast?, StateFile.load s.files path = .ok x.2
  /-- Once all changes have returned it holds what is in memory. -/
  final : s.Complete → s.filed = s.past.length ∧
    Store.openAt s.files path = .ok { registry := s.registry, path := some path }

section
variable {changes : List Change} {path : String} {r : Registry} {t : FileTree} {s s' : Scene changes}
  {i j : Fin changes.length} {x : Stage}

theorem getElem?_versions_length : s.versions[s.past.length]? = some s.registry := by
  simp [Scene.versions]

theorem getElem?_versions_of_lt {k : Nat} (h : k < s.versions.length) (r : Registry) :
    (s.versions ++ [r])[k]? = s.versions[k]? := List.getElem?_append_left h

theorem lt_of_version {k : Nat} {es : List Endpoint} (h : s.versions[k]?.map Registry.entries = some es) :
    k < s.versions.length := by
  obtain ⟨_, hk, _⟩ := Option.map_eq_some_iff.mp h
  exact (List.getElem?_eq_some_iff.mp hk).1

/-! Who has the lock -/

/-- The lock of the state file is with one change at most. -/
def Exclusive (s : Scene changes) : Prop := ∀ i j, (s.stage i).Holds → (s.stage j).Holds → i = j

theorem Exclusive.set (h : Exclusive s) (hs : s'.stage = Function.update s.stage i x)
    (hx : x.Holds → (s.stage i).Holds) : Exclusive s' := by
  have hold : ∀ j, (s'.stage j).Holds → (s.stage j).Holds := by
    intro j hj
    rw [hs] at hj
    by_cases hji : j = i
    · subst hji
      exact hx (by simpa using hj)
    · simpa [hji] using hj
  exact fun j k hj hk => h j k (hold j hj) (hold k hk)

theorem Exclusive.step (h : Exclusive s) (hs : Step path s s') : Exclusive s' := by
  cases hs with
  | @lock i hs hf =>
    intro j k hj hk
    have only : ∀ j, ((s.set i .locked).stage j).Holds → j = i := by
      intro j hj
      by_contra hji
      rw [Scene.set] at hj
      exact hf j (by simpa [hji] using hj)
    exact (only j hj).trans (only k hk).symm
  | change | refuse | unlock => exact h.set rfl fun hx => hx.elim
  | read hs | save hs => exact h.set rfl fun _ => by rw [hs]; trivial

/-! What is in memory and in the file -/

/-- What holds between the steps. -/
structure Kept (path : String) (s : Scene changes) : Prop where
  exclusive : Exclusive s
  storable : ∀ r ∈ s.versions, r.Storable
  versions : ∀ x ∈ s.saves, s.versions[x.1]?.map Registry.entries = some x.2
  ordered : (s.saves.map (·.1)).Pairwise (· ≤ ·)
  filed : ∃ r, s.versions[s.filed]? = some r ∧
    Store.openAt s.files path = .ok { registry := r, path := some path }
  loaded : ∀ x ∈ s.saves.getLast?, StateFile.load s.files path = .ok x.2
  /-- What was read is a version, and no older one than that in the file. -/
  read : ∀ i k es, s.stage i = .read k es → s.versions[k]?.map Registry.entries = some es ∧ s.filed ≤ k
  /-- A version that the file does not hold yet is going to be saved. -/
  owed : s.filed = s.past.length ∨ ∃ i, (s.stage i).Owes s.past.length

theorem kept_start {st : Store} (h : Store.Run path st t true) :
    Kept path (Scene.start st.registry t changes) := by
  obtain ⟨hst, hp⟩ := h.storable
  constructor
  case exclusive => exact fun _ _ h => h.elim
  case storable => simpa [Scene.versions, Scene.start] using hst
  case filed => exact ⟨st.registry, rfl, by rw [← hp]; exact h.loaded rfl⟩
  case owed => exact .inl rfl
  all_goals simp [Scene.start]

theorem le_filed (h : (s.saves.map (·.1)).Pairwise (· ≤ ·)) : ∀ x ∈ s.saves, x.1 ≤ s.filed := by
  unfold Scene.filed
  rcases List.eq_nil_or_concat' s.saves with hs | ⟨before, last, hs⟩
  · simp [hs]
  · rw [hs] at h ⊢
    rw [List.map_append, List.pairwise_append] at h
    intro x hx
    rw [List.getLast?_concat]
    rcases List.mem_append.mp hx with hx | hx
    · exact h.2.2 _ (List.mem_map_of_mem hx) _ (by simp)
    · rw [List.mem_singleton.mp hx]

theorem filed_concat {y : Nat × List Endpoint} {files : FileTree} :
    ({ s.set i x with files := files, saves := s.saves ++ [y] } : Scene changes).filed = y.1 := by
  simp [Scene.filed]

/-- A change that goes on without touching memory or the file. -/
theorem Kept.set (h : Kept path s) (he : Exclusive (s.set i x))
    (hr : ∀ k es, x = .read k es → s.versions[k]?.map Registry.entries = some es ∧ s.filed ≤ k)
    (ho : (s.stage i).Owes s.past.length → x.Owes s.past.length) : Kept path (s.set i x) := by
  refine { h with exclusive := he, read := ?_, owed := ?_ }
  · intro j k es hj
    by_cases hji : j = i
    · subst hji
      exact hr k es (by simpa [Scene.set] using hj)
    · exact h.read j k es (by simpa [Scene.set, hji] using hj)
  · refine h.owed.imp id fun ⟨j, hj⟩ => ⟨j, ?_⟩
    by_cases hji : j = i
    · subst hji
      simpa [Scene.set] using ho hj
    · simpa [Scene.set, hji] using hj

theorem Kept.change {r e} (h : Kept path s) (hc : (changes.get i).Storable)
    (hr : s.registry.change (changes.get i) = .ok (r, e))
    (he : Exclusive { s.set i .changed with registry := r, past := s.versions }) :
    Kept path { s.set i .changed with registry := r, past := s.versions } := by
  have hold : ∀ {k : Nat} {es : List Endpoint}, s.versions[k]?.map Registry.entries = some es →
      (s.versions ++ [r])[k]?.map Registry.entries = some es := by
    intro k es hk
    rwa [getElem?_versions_of_lt (lt_of_version hk)]
  constructor
  case exclusive => exact he
  case storable =>
    intro x hx
    rcases List.mem_append.mp hx with hx | hx
    · exact h.storable x hx
    · obtain rfl := List.mem_singleton.mp hx
      exact (h.storable s.registry (by simp [Scene.versions])).change hc hr
  case versions => exact fun x hx => hold (h.versions x hx)
  case ordered => exact h.ordered
  case filed =>
    obtain ⟨r', hk, ho⟩ := h.filed
    exact ⟨r', (getElem?_versions_of_lt (List.getElem?_eq_some_iff.mp hk).1 r).trans hk, ho⟩
  case loaded => exact h.loaded
  case read =>
    intro j k es hj
    have hji : j ≠ i := by
      rintro rfl
      simp [Scene.set] at hj
    obtain ⟨hk, hf⟩ := h.read j k es (by simpa [Scene.set, hji] using hj)
    exact ⟨hold hk, hf⟩
  case owed => exact .inr ⟨i, by simp [Scene.set, Stage.Owes]⟩

theorem Kept.save {k es now files} (h : Kept path s) (hs : s.stage i = .read k es) (hn : now.IsValid)
    (hf : StateFile.save s.files path now es = (files, .ok ()))
    (he : Exclusive { s.set i .saved with files := files, saves := s.saves ++ [(k, es)] }) :
    Kept path { s.set i .saved with files := files, saves := s.saves ++ [(k, es)] } := by
  obtain ⟨hk, hle⟩ := h.read i k es hs
  have hlt : k < s.past.length + 1 := by simpa [Scene.versions] using lt_of_version hk
  obtain ⟨r, hr, rfl⟩ := Option.map_eq_some_iff.mp hk
  obtain ⟨hopen, hload⟩ := Store.opened_of_saved (s := { registry := r, path := some path }) hn
    (h.storable r (List.mem_of_getElem? hr)) rfl (.whole hf)
  -- Nobody else has the lock.
  have hother : ∀ j, j ≠ i → ¬ (s.stage j).Holds := fun j hji hj =>
    hji (h.exclusive j i hj (by rw [hs]; trivial))
  constructor
  case exclusive => exact he
  case storable => exact h.storable
  case versions =>
    intro x hx
    rcases List.mem_append.mp hx with hx | hx
    · exact h.versions x hx
    · rw [List.mem_singleton.mp hx]
      exact hk
  case ordered =>
    rw [List.map_append, List.pairwise_append]
    refine ⟨h.ordered, by simp, fun a ha b hb => ?_⟩
    obtain ⟨x, hx, rfl⟩ := List.mem_map.mp ha
    obtain rfl : b = k := by simpa using hb
    exact (le_filed h.ordered x hx).trans hle
  case filed => exact ⟨r, by rw [filed_concat]; exact hr, hopen⟩
  case loaded =>
    intro x hx
    rw [List.getLast?_concat] at hx
    cases hx
    rw [hload, Registry.list_false]
  case read =>
    intro j k' es' hj
    by_cases hji : j = i
    · subst hji
      simp [Scene.set] at hj
    · have hj : s.stage j = .read k' es' := by simpa [Scene.set, hji] using hj
      exact (hother j hji (by rw [hj]; trivial)).elim
  case owed =>
    rw [filed_concat]
    rcases h.owed with ho | ⟨j, hj⟩
    · exact .inl (show k = s.past.length by omega)
    · by_cases hji : j = i
      · subst hji
        rw [hs] at hj
        exact .inl (show k = s.past.length from Nat.le_antisymm (Nat.le_of_lt_succ hlt) hj)
      · exact .inr ⟨j, by simpa [Scene.set, hji] using hj⟩

theorem Kept.step (h : Kept path s) (hc : ∀ c ∈ changes, c.Storable) (hs : Step path s s') : Kept path s' := by
  have he := h.exclusive.step hs
  cases hs with
  | change hw hr => exact h.change (hc _ (List.get_mem ..)) hr he
  | refuse hw => exact h.set he (by simp) (by simp [hw, Stage.Owes])
  | lock hs => exact h.set he (by simp) fun _ => trivial
  | read hs =>
    refine h.set he (fun k es hx => ?_) fun _ => Nat.le_refl _
    cases hx
    refine ⟨by rw [getElem?_versions_length]; rfl, ?_⟩
    obtain ⟨r, hk, -⟩ := h.filed
    simpa [Scene.versions, Nat.lt_succ_iff] using (List.getElem?_eq_some_iff.mp hk).1
  | save hs hn hf => exact h.save hs hn hf he
  | unlock hs => exact h.set he (by simp) (by simp [hs, Stage.Owes])

theorem Kept.inOrder (h : Kept path s) : InOrder path s where
  versions := h.versions
  ordered := h.ordered
  opened := h.filed
  loaded := h.loaded
  final := by
    intro hc
    have hf : s.filed = s.past.length := h.owed.resolve_right fun ⟨i, hi⟩ => by
      rw [hc i] at hi
      exact hi
    obtain ⟨r, hk, ho⟩ := h.filed
    rw [hf, getElem?_versions_length] at hk
    cases hk
    exact ⟨hf, ho⟩

theorem kept_steps {st : Store} (h : Store.Run path st t true) (hc : ∀ c ∈ changes, c.Storable)
    (hs : Steps path (Scene.start st.registry t changes) s) : Kept path s := by
  induction hs with
  | refl => exact kept_start h
  | tail _ hs ih => exact ih.step hc hs

/-! The file never goes back -/

theorem Kept.filed_le (h : Kept path s) (hs : Step path s s') : s.filed ≤ s'.filed := by
  cases hs with
  | save hs =>
    rw [filed_concat]
    exact (h.read _ _ _ hs).2
  | _ => exact Nat.le_refl _

theorem Kept.filed_mono (h : Kept path s) (hc : ∀ c ∈ changes, c.Storable) (hs : Steps path s s') :
    s.filed ≤ s'.filed := by
  induction hs using Relation.ReflTransGen.head_induction_on with
  | refl => exact Nat.le_refl _
  | head hs _ ih => exact (h.filed_le hs).trans (ih (h.step hc hs))

/-! Nobody waits for ever -/

/-- While saves succeed they go on succeeding. -/
theorem savable_step (h : StateFile.Savable s.files path) (hs : Step path s s') : StateFile.Savable s'.files path := by
  cases hs with
  | save _ _ hf => exact StateFile.savable_again hf
  | _ => exact h

theorem step_of_holds (h : StateFile.Savable s.files path) (hi : (s.stage i).Holds) : ∃ s' x,
    Step path s s' ∧ s'.stage = Function.update s.stage i x ∧ x.rank < (s.stage i).rank := by
  cases hs : s.stage i with
  | locked => exact ⟨_, _, .read hs, rfl, by simp [Stage.rank]⟩
  | read k es =>
    obtain ⟨files, hf⟩ := h ⟨2024, 1, 1, 0, 0, 0, 0⟩ es
    exact ⟨_, _, .save hs (by decide) hf, rfl, by simp [Stage.rank]⟩
  | saved => exact ⟨_, _, .unlock hs, rfl, by simp [Stage.rank]⟩
  | waiting | changed | done => simp [hs, Stage.Holds] at hi

/-- As long as some change hasn't returned, some change goes on: the one that has the lock, or any if none has. -/
theorem exists_step (h : StateFile.Savable s.files path) (hc : ¬ s.Complete) : ∃ s' i x,
    Step path s s' ∧ s'.stage = Function.update s.stage i x ∧ x.rank < (s.stage i).rank := by
  by_cases hh : ∃ i, (s.stage i).Holds
  · obtain ⟨i, hi⟩ := hh
    obtain ⟨s', x, hs⟩ := step_of_holds h hi
    exact ⟨s', i, x, hs⟩
  · obtain ⟨i, hi⟩ := not_forall.mp hc
    cases hs : s.stage i with
    | waiting =>
      cases hr : s.registry.change (changes.get i) with
      | ok y => exact ⟨_, i, _, .change hs hr, rfl, by simp [hs, Stage.rank]⟩
      | error err => exact ⟨_, i, _, .refuse hs hr, rfl, by simp [hs, Stage.rank]⟩
    | changed => exact ⟨_, i, _, .lock hs fun j hj => hh ⟨j, hj⟩, rfl, by simp [hs, Stage.rank]⟩
    | locked | read | saved => exact (hh ⟨i, by rw [hs]; trivial⟩).elim
    | done => exact (hi hs).elim

theorem exists_complete (h : StateFile.Savable s.files path) : ∃ s', Steps path s s' ∧ s'.Complete :=
  exists_done Scene.stage Stage.rank (fun _ _ => savable_step) (fun _ => exists_step) h

theorem savable_steps (h : StateFile.Savable s.files path) (hs : Steps path s s') : StateFile.Savable s'.files path := by
  induction hs with
  | refl => exact h
  | tail _ hs ih => exact savable_step ih hs

/-- Whatever the callers do at once, what they save is in the order of what was in memory, the file never goes back to
an older version, and in the end it holds what is in memory. -/
theorem steps_inOrder {st : Store} (ho : Store.Run path st t true) (hc : ∀ c ∈ changes, c.Storable)
    (h : Steps path (Scene.start st.registry t changes) s) :
    InOrder path s ∧ (∀ s', Steps path s s' → s.filed ≤ s'.filed) ∧
      (StateFile.Savable t path → ∃ s', Steps path s s' ∧ s'.Complete) :=
  ⟨(kept_steps ho hc h).inOrder, fun _ => (kept_steps ho hc h).filed_mono hc,
    fun hs => exists_complete (savable_steps hs h)⟩

/-- A change with nobody else at work comes to what the store makes of it. -/
theorem steps_of_change {st st' : Store} {t' : FileTree} {c : Change} {now : Timestamp} {e : Endpoint}
    (hp : st.path = some path) (hn : now.IsValid) (h : st.change t now c = .ok (st', t', e))
    (hs : (StateFile.save t path now st'.registry.entries).2 = .ok ()) :
    ∃ s : Scene [c], Steps path (Scene.start st.registry t [c]) s ∧ s.Complete ∧ s.registry = st'.registry ∧
      s.files = t' := by
  obtain ⟨hr, hcommit⟩ := Store.change_eq_ok h
  rw [Store.commit_eq hp] at hcommit
  obtain rfl : (StateFile.save t path now st'.registry.entries).1 = t' := (Prod.mk.inj hcommit).2
  let i : Fin [c].length := ⟨0, Nat.one_pos⟩
  have only : ∀ j : Fin [c].length, j = i := fun j => Fin.ext (Nat.lt_one_iff.mp j.isLt)
  have hsteps : Steps path (Scene.start st.registry t [c]) _ :=
    .tail (.tail (.tail (.tail (.tail .refl
      (.change (i := i) rfl hr))
      (.lock (i := i) rfl fun j => by rw [only j]; exact id))
      (.read (i := i) rfl))
      (.save (i := i) rfl hn (Prod.ext rfl hs)))
      (.unlock (i := i) rfl)
  exact ⟨_, hsteps, fun j => by rw [only j]; rfl, rfl, rfl⟩

/-- An endpoint is stored, and disabled by another caller before it's saved. Both callers save the same version. -/
theorem steps_inOrder_race :
    let e : Endpoint := { id := "a", url := "http://a:1", priority := 0 }
    let changes : List Change := [.upsert e, .setEnabled "a" false]
    ∃ st, Store.Run "a.json" st {} true ∧ (∀ c ∈ changes, c.Storable) ∧
      ∃ s : Scene changes, Steps "a.json" (Scene.start st.registry {} changes) s ∧ s.Complete ∧ s.saves.length = 2 ∧
        InOrder "a.json" s := by
  intro e changes
  have hload : StateFile.load {} "a.json" = .ok [] := if_neg (by decide +kernel)
  have hopened := Store.Run.opened (Store.openAt_of_load hload)
  have hc : ∀ c ∈ changes, c.Storable := by
    simp only [changes, List.mem_cons, List.not_mem_nil, or_false, forall_eq_or_imp, forall_eq]
    exact ⟨⟨by decide, by decide, by simp [e], by simp [e]⟩, trivial⟩
  have hok : (StateFile.save {} "a.json" default []).2.isOk = true := by decide +kernel
  have hsave := StateFile.savable_of_save hok
  have hn : Timestamp.IsValid ⟨2024, 1, 1, 0, 0, 0, 0⟩ := by decide
  let storing : Fin changes.length := ⟨0, Nat.two_pos⟩
  let disabling : Fin changes.length := ⟨1, Nat.one_lt_two⟩
  have free : ∀ {s : Scene changes}, ¬ (s.stage storing).Holds → ¬ (s.stage disabling).Holds →
      ∀ j, ¬ (s.stage j).Holds := by
    rintro s hs hd ⟨_ | _ | _, hj⟩
    · exact hs
    · exact hd
    · exact absurd hj (by simp [changes])
  obtain ⟨r₁, _, stored⟩ : ∃ r e', (Registry.ofList []).change (.upsert e) = .ok (r, e') := ⟨_, _, rfl⟩
  obtain ⟨r₂, _, disabled⟩ : ∃ r e', r₁.change (.setEnabled "a" false) = .ok (r, e') := by
    cases stored
    exact ⟨_, _, rfl⟩
  obtain ⟨t₁, h₁⟩ := hsave ⟨2024, 1, 1, 0, 0, 0, 0⟩ r₂.entries
  obtain ⟨t₂, h₂⟩ := StateFile.savable_again h₁ ⟨2024, 1, 1, 0, 0, 0, 0⟩ r₂.entries
  have hsteps : Steps "a.json" (Scene.start (Registry.ofList []) {} changes) _ :=
    .tail (.tail (.tail (.tail (.tail (.tail (.tail (.tail (.tail (.tail .refl
      (.change (i := storing) rfl stored))
      (.change (i := disabling) rfl disabled))
      (.lock (i := disabling) rfl (free id id)))
      (.read (i := disabling) rfl))
      (.save (i := disabling) rfl hn h₁))
      (.unlock (i := disabling) rfl))
      (.lock (i := storing) rfl (free id id)))
      (.read (i := storing) rfl))
      (.save (i := storing) rfl hn h₂))
      (.unlock (i := storing) rfl)
  refine ⟨_, hopened, hc, _, hsteps, ?_, rfl, (steps_inOrder hopened hc hsteps).1⟩
  rintro ⟨_ | _ | _, hj⟩
  · rfl
  · rfl
  · exact absurd hj (by simp [changes])

end
end ProxyWatch.Writers
