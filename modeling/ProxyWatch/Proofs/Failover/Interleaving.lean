import Mathlib.Data.List.Dedup
import ProxyWatch.Proofs.Failover.Serial
import ProxyWatch.Proofs.Progress

/-! However the steps of several calls fall between each other, they can all be brought to an end, and some order of
the same calls one after another comes to the same registry and the same reports about each endpoint. -/
namespace ProxyWatch.Failover

section
variable {limit : Nat} {calls : List Call} {r : Registry} {s s' : Scene calls} {id : String}

theorem orderly_steps (h : Steps limit (Scene.start r calls) s) : Orderly s := by
  induction h with
  | refl => exact orderly_start
  | tail _ hs ih => exact orderly_step ih hs

theorem linked_steps (h : Steps limit (Scene.start r calls) s) (id : String) :
    ∃ order, Linked limit r s id order := by
  induction h generalizing id with
  | refl => exact ⟨[], linked_start⟩
  | tail hs hlast ih => exact linked_step (orderly_steps hs) ih hlast id

/-! Nobody waits for ever -/

/-- How many steps are left to a call at most. -/
def Stage.rank : Stage → Nat
  | waiting => 5
  | locked => 4
  | read _ => 3
  | stored .. => 2
  | told => 1
  | done => 0

/-- A call that has the lock goes on, whatever it finds. -/
theorem Orderly.step_of_holds (h : Orderly s) {i : Fin calls.length} (hi : (s.stage i).Holds) (limit : Nat) :
    ∃ s' x, Step limit s s' ∧ s'.stage = Function.update s.stage i x ∧ x.rank < (s.stage i).rank := by
  have hl := h.locks i hi
  cases hs : s.stage i with
  | waiting => simp [hs, Stage.Holds] at hi
  | done => simp [hs, Stage.Holds] at hi
  | locked =>
    cases hr : s.registry.get (calls.get i).target with
    | ok e => exact ⟨_, _, .read hs hr, rfl, by simp [Stage.rank]⟩
    | error err => exact ⟨_, _, .miss hs hr, rfl, by simp [Stage.rank]⟩
  | read e =>
    obtain ⟨u, hu⟩ : ∃ u, (calls.get i).update? limit e = some u := by
      generalize calls.get i = c at hl
      cases c with
      | act a => cases a <;> simp_all [Call.locks, Call.update?]
      | setPriority => simp [Call.locks] at hl
    cases hr : s.registry.applyHealth (calls.get i).target u with
    | ok x => exact ⟨_, _, .store hs hu hr, rfl, by simp [Stage.rank]⟩
    | error err => exact ⟨_, _, .lose hs hu hr, rfl, by simp [Stage.rank]⟩
  | stored e after => exact ⟨_, _, .tell hs, rfl, by simp [Stage.rank]⟩
  | told => exact ⟨_, _, .unlock hs, rfl, by simp [Stage.rank]⟩

/-- As long as some call hasn't returned, some call goes on: one that has a lock, or any if no lock is taken. -/
theorem Orderly.exists_step (h : Orderly s) (hc : ¬ s.Complete) (limit : Nat) :
    ∃ s' i x, Step limit s s' ∧ s'.stage = Function.update s.stage i x ∧ x.rank < (s.stage i).rank := by
  by_cases hh : ∃ i, (s.stage i).Holds
  · obtain ⟨i, hi⟩ := hh
    obtain ⟨s', x, hs⟩ := h.step_of_holds hi limit
    exact ⟨s', i, x, hs⟩
  · obtain ⟨i, hi⟩ := not_forall.mp hc
    have hw : s.stage i = .waiting := by
      have hn : ¬ (s.stage i).Holds := fun hn => hh ⟨i, hn⟩
      cases hs : s.stage i <;> simp_all [Stage.Holds]
    cases hl : (calls.get i).locks with
    | true =>
      exact ⟨_, i, _, .lock hw hl fun j _ hj => hh ⟨j, hj⟩, rfl, by simp [hw, Stage.rank]⟩
    | false => exact ⟨_, i, _, .pass hw hl, rfl, by simp [hw, Stage.rank]⟩

/-- Whatever has happened so far, the calls can all be brought to an end. -/
theorem Orderly.exists_complete (h : Orderly s) : ∃ t, Steps limit s t ∧ t.Complete :=
  exists_done Scene.stage Stage.rank (fun _ _ => orderly_step) (fun _ ho hc => ho.exists_step hc limit) h

/-! One order for all endpoints -/

theorem flatMap_one {α β : Type} [DecidableEq α] {f : α → List β} {xs : List α} {a : α} (hn : xs.Nodup) :
    (xs.flatMap fun x => if x = a then f x else []) = if a ∈ xs then f a else [] := by
  induction xs with
  | nil => rfl
  | cons x xs ih =>
    obtain ⟨hx, hn⟩ := List.nodup_cons.mp hn
    rw [List.flatMap_cons, ih hn]
    by_cases ha : x = a
    · subst ha
      simp [hx]
    · simp [ha, Ne.symm ha]

/-- The orders on the single endpoints, put one after another. -/
theorem exists_order (order : String → List (Fin calls.length)) (hn : ∀ id, (order id).Nodup)
    (hm : ∀ id i, i ∈ order id ↔ (calls.get i).target = id) :
    ∃ cs : List Call, cs.Perm calls ∧ ∀ id, cs.filter (·.target = id) = (order id).map calls.get := by
  let ids := (calls.map Call.target).dedup
  have hids : ∀ i, (calls.get i).target ∈ ids := fun i =>
    List.mem_dedup.mpr (List.mem_map_of_mem (List.get_mem calls i))
  refine ⟨(ids.flatMap order).map calls.get, ?_, fun id => ?_⟩
  · have hnd : (ids.flatMap order).Nodup := by
      refine List.nodup_flatMap.mpr ⟨fun id _ => hn id, (List.nodup_dedup _).imp fun hne => ?_⟩
      exact fun i hi hj => hne (((hm _ i).mp hi).symm.trans ((hm _ i).mp hj))
    have hall : (ids.flatMap order).Perm (List.finRange calls.length) := by
      refine (List.perm_ext_iff_of_nodup hnd (List.nodup_finRange _)).mpr fun i => ?_
      simp only [List.mem_flatMap, List.mem_finRange, iff_true]
      exact ⟨_, hids i, (hm _ i).mpr rfl⟩
    simpa using hall.map calls.get
  · have hone : ∀ id', (order id').filter (fun i => (calls.get i).target = id) =
        if id' = id then order id' else [] := by
      intro id'
      split
      · rename_i he
        exact List.filter_eq_self.mpr fun i hi => by simpa [he] using (hm id' i).mp hi
      · rename_i he
        refine List.filter_eq_nil_iff.mpr fun i hi ht => he ?_
        exact ((hm id' i).mp hi).symm.trans (of_decide_eq_true ht)
    have hout : id ∉ ids → order id = [] := fun hid =>
      List.eq_nil_iff_forall_not_mem.mpr fun i hi => hid ((hm id i).mp hi ▸ hids i)
    rw [List.filter_map, List.filter_flatMap]
    simp only [Function.comp_def, hone]
    rw [flatMap_one (List.nodup_dedup _)]
    split
    · rfl
    · rename_i hid
      rw [hout hid]

/-! What all calls come to -/

/-- A scene to which the calls lead in this order as well, one after another. -/
structure Serial (limit : Nat) (r : Registry) (s : Scene calls) (order : List Call) : Prop where
  perm : order.Perm calls
  registry_eq : (order.foldl (serve limit) (r, [])).1 = s.registry
  events_eq : ∀ id, (order.foldl (serve limit) (r, [])).2.filter (·.subject = id) =
    s.events.filter (·.subject = id)

theorem serial_of_complete (h : Steps limit (Scene.start r calls) s) (hc : s.Complete) :
    ∃ order, Serial limit r s order := by
  choose order ho using linked_steps h
  obtain ⟨cs, hp, hf⟩ := exists_order order (fun id => (ho id).nodup) (by
    intro id i
    rw [(ho id).mem_iff, hc i]
    exact and_iff_left trivial)
  have hproject : ∀ id, project id (cs.foldl (serve limit) (r, [])) =
      project id (s.registry, s.events) := by
    intro id
    obtain ⟨untold, hre, -, hn⟩ := (ho id).replay_eq
    rw [project_foldl_serve, hf]
    refine hre.trans ?_
    rw [hn fun i _ hh => by simp [hc i, Stage.Holds] at hh, List.append_nil]
    rfl
  exact ⟨cs, hp, Registry.ext_find? fun id => congrArg Prod.fst (hproject id),
    fun id => congrArg Prod.snd (hproject id)⟩

/-- The call is a failed outcome. -/
def Call.Fails : Call → Prop
  | act a => a.Fails a.target
  | setPriority .. => False

/-- Failed outcomes are counted one by one. -/
theorem failures_replay {e : Endpoint} {evs : List Event} {cs : List Call} (he : e.failures ≤ maxU32)
    (hf : ∀ c ∈ cs, c.Fails) : ∃ x, (replay limit (some e, evs) cs).1 = some x ∧
      x.failures = min maxU32 (e.failures + cs.length) := by
  induction cs using List.reverseRecOn with
  | nil => exact ⟨e, rfl, (Nat.min_eq_right he).symm⟩
  | append_singleton cs c ih =>
    obtain ⟨x, hx, hn⟩ := ih fun d hd => hf d (List.mem_append_left _ hd)
    have hc : c.Fails := hf c (by simp)
    refine ⟨c.effect limit x, ?_, ?_⟩
    · rw [replay_append]
      simp only [replay, List.foldl_cons, List.foldl_nil, serveOne] at hx ⊢
      rw [hx]
    · cases c with
      | setPriority => exact hc.elim
      | act a =>
        have ha : a.Fails a.target := hc
        rw [Call.effect, FailoverAct.failures_effect rfl, if_neg ha.not_clears, if_pos ha, hn, List.length_append]
        simp only [List.length_singleton]
        omega

/-- However calls fall between each other. -/
theorem Serial.failures_eq {order : List Call} (h : Serial limit r s order) {e : Endpoint}
    (he : r.find? id = some e) (hmax : e.failures ≤ maxU32)
    (hf : ∀ c ∈ calls, c.target = id → c.Fails) : ∃ x, s.registry.find? id = some x ∧
      x.failures = min maxU32 (e.failures + calls.countP (·.target = id)) := by
  have hp := congrArg Prod.fst (project_foldl_serve limit (r, []) id order)
  simp only [project, h.registry_eq, he, List.filter_nil] at hp
  rw [hp, ← h.perm.countP_eq, List.countP_eq_length_filter]
  refine failures_replay hmax fun c hc => ?_
  obtain ⟨hm, ht⟩ := List.mem_filter.mp hc
  exact hf c (h.perm.mem_iff.mp hm) (by simpa using ht)

/-- Calls at once come to what they come to in some order, one after another. None of several failed outcomes is
lost. -/
theorem calls_serial (limit : Nat) (r : Registry) (calls : List Call) (s : Scene calls)
    (h : Steps limit (Scene.start r calls) s) :
    (∃ t, Steps limit s t ∧ t.Complete) ∧
    (s.Complete → (∃ order, Serial limit r s order) ∧
      ∀ id e, r.find? id = some e → e.failures ≤ maxU32 → (∀ c ∈ calls, c.target = id → c.Fails) →
        ∃ x, s.registry.find? id = some x ∧
          x.failures = min maxU32 (e.failures + calls.countP (·.target = id))) := by
  refine ⟨(orderly_steps h).exists_complete, fun hc => ?_⟩
  obtain ⟨order, ho⟩ := serial_of_complete h hc
  exact ⟨⟨order, ho⟩, fun id e he hmax hf => ho.failures_eq he hmax hf⟩

end

/-- An outcome is applied to an endpoint that is taken out of use by hand in between. -/
theorem calls_serial_race :
    let e : Endpoint := { id := "a", url := "http://a:1", priority := 0 }
    let calls : List Call := [.act (.outcome "a" { level := .failed, responseMs := 0, checkedAt := default }),
      .act (.setEnabled "a" false)]
    ∃ s : Scene calls, Steps 1 (Scene.start (Registry.empty.put e) calls) s ∧ s.Complete ∧
      ∃ order, Serial 1 (Registry.empty.put e) s order := by
  intro e calls
  have hfind : (Registry.empty.put e).find? "a" = some e := Registry.find?_put_self
  have hset : (serve 1 (Registry.empty.put e, []) (.act (.setEnabled "a" false))).1.find? "a" =
      some { e with enabled := false } := by
    rw [serve_of_find? (c := .act (.setEnabled "a" false)) hfind]
    exact Registry.find?_put_self (e := { e with enabled := false })
  let failure : Fin calls.length := ⟨0, Nat.two_pos⟩
  let setting : Fin calls.length := ⟨1, Nat.one_lt_two⟩
  have hsteps : Steps 1 (Scene.start (Registry.empty.put e) calls) _ :=
    .tail (.tail (.tail (.tail (.tail (.tail .refl
      (.lock (i := failure) rfl rfl fun _ _ hj => hj.elim))
      (.read (i := failure) rfl (Registry.get_of_find? hfind)))
      (.pass (i := setting) rfl rfl))
      (.store (i := failure) rfl rfl (Registry.modify_of_find? hset)))
      (.tell (i := failure) rfl))
      (.unlock (i := failure) rfl)
  refine ⟨_, hsteps, ?hc, ((calls_serial 1 _ calls _ hsteps).2 ?hc).1⟩
  intro i
  match i with
  | ⟨0, _⟩ => rfl
  | ⟨1, _⟩ => rfl

end ProxyWatch.Failover
