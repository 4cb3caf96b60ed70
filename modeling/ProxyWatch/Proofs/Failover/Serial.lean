import Mathlib.Algebra.Order.BigOperators.Group.Finset
import Mathlib.Data.List.FinRange
import ProxyWatch.Proofs.Failover.Calls

/-! Calls that go on at once come to the same as some order of them one after another. A call that takes the lock is
put where it stores its update, or before all that has been set since it read. -/
namespace ProxyWatch.Failover

section
variable {limit : Nat} {calls : List Call} {r : Registry} {s s' : Scene calls} {i j : Fin calls.length}
  {id : String} {order : List (Fin calls.length)} {x : Stage}

/-! Who has a lock -/

/-- The lock of an endpoint is with one of its calls at most, and with none that takes no lock. -/
structure Orderly (s : Scene calls) : Prop where
  exclusive : ∀ i j, (calls.get i).target = (calls.get j).target → (s.stage i).Holds →
    (s.stage j).Holds → i = j
  locks : ∀ i, (s.stage i).Holds → (calls.get i).locks = true

theorem orderly_start : Orderly (Scene.start r calls) :=
  ⟨fun _ _ _ h => h.elim, fun _ h => h.elim⟩

/-- A call that goes on without taking the lock. -/
theorem Orderly.set (h : Orderly s) (hs : s'.stage = Function.update s.stage i x)
    (hx : x.Holds → (s.stage i).Holds) : Orderly s' := by
  have hold : ∀ j, (s'.stage j).Holds → (s.stage j).Holds := by
    intro j hj
    rw [hs] at hj
    by_cases hji : j = i
    · subst hji
      exact hx (by simpa using hj)
    · simpa [hji] using hj
  exact ⟨fun j k ht hj hk => h.exclusive j k ht (hold j hj) (hold k hk), fun j hj => h.locks j (hold j hj)⟩

theorem orderly_step (h : Orderly s) (hs : Step limit s s') : Orderly s' := by
  cases hs with
  | @lock i hw hl hf =>
    have hne : ∀ j, j ≠ i → (s.set i .locked).stage j = s.stage j := fun j hj => by simp [Scene.set, hj]
    constructor
    case exclusive =>
      intro j k ht hj hk
      by_cases hji : j = i
      · subst hji
        by_contra hkj
        rw [hne k (Ne.symm hkj)] at hk
        exact hf k ht.symm hk
      · rw [hne j hji] at hj
        by_cases hki : k = i
        · subst hki
          exact (hf j ht hj).elim
        · rw [hne k hki] at hk
          exact h.exclusive j k ht hj hk
    case locks =>
      intro j hj
      by_cases hji : j = i
      · exact hji ▸ hl
      · rw [hne j hji] at hj
        exact h.locks j hj
  | read hs | miss hs | store hs | lose hs | tell hs => exact h.set rfl fun _ => by rw [hs]; trivial
  | unlock | pass => exact h.set rfl fun hx => hx.elim

/-! What each endpoint has gone through -/

/-- What the call has still to report. -/
def Stage.untold (limit : Nat) (c : Call) : Stage → List Event
  | stored current after => c.reports limit current after
  | _ => []

/-- The calls on an endpoint that have had their effect, in an order in which they have it one after another. -/
structure Linked (limit : Nat) (r : Registry) (s : Scene calls) (id : String)
    (order : List (Fin calls.length)) : Prop where
  nodup : order.Nodup
  mem_iff : ∀ i, i ∈ order ↔ (calls.get i).target = id ∧ (s.stage i).Effective
  /-- What the call with the lock has still to report comes last. -/
  replay_eq : ∃ untold, replay limit (r.find? id, []) (order.map calls.get) =
      (s.registry.find? id, s.events.filter (·.subject = id) ++ untold) ∧
    (∀ i, (calls.get i).target = id → (s.stage i).Holds → untold = (s.stage i).untold limit (calls.get i)) ∧
    ((∀ i, (calls.get i).target = id → ¬ (s.stage i).Holds) → untold = [])
  /-- Since a record was read nothing but settings has come to it. -/
  read : ∀ i e, (calls.get i).target = id → s.stage i = .read e → ∃ pre post, order = pre ++ post ∧
    (replay limit (r.find? id, []) (pre.map calls.get)).1 = some e ∧ ∀ j ∈ post, (calls.get j).locks = false
  stored : ∀ i e after, (calls.get i).target = id → s.stage i = .stored e after → after.id = id

theorem linked_start : Linked limit r (Scene.start r calls) id [] where
  nodup := List.nodup_nil
  mem_iff i := by simp [Scene.start, Stage.Effective]
  replay_eq := ⟨[], rfl, fun _ _ h => h.elim, fun _ => rfl⟩
  read i e _ h := by simp [Scene.start] at h
  stored i e after _ h := by simp [Scene.start] at h

/-- Nothing comes of a step on another endpoint. -/
theorem Linked.other (h : Linked limit r s id order) (hi : (calls.get i).target ≠ id)
    (hs : s'.stage = Function.update s.stage i x)
    (hp : project id (s'.registry, s'.events) = project id (s.registry, s.events)) :
    Linked limit r s' id order := by
  have hst : ∀ j, (calls.get j).target = id → s'.stage j = s.stage j := by
    rintro j rfl
    have hji : j ≠ i := fun hj => hi (by rw [hj])
    simp [hs, hji]
  obtain ⟨hr, he⟩ := Prod.mk.inj hp
  obtain ⟨untold, hre, hu, hn⟩ := h.replay_eq
  constructor
  case nodup => exact h.nodup
  case mem_iff =>
    intro j
    rw [h.mem_iff]
    exact and_congr_right fun ht => by rw [hst j ht]
  case replay_eq =>
    refine ⟨untold, ?_, ?_, ?_⟩
    · rw [hre]
      exact congrArg₂ _ hr.symm (congrArg (· ++ untold) he.symm)
    · intro j ht hh
      rw [hst j ht] at hh ⊢
      exact hu j ht hh
    · exact fun hq => hn fun j ht hh => hq j ht (by rwa [hst j ht])
  case read =>
    intro j e ht hh
    exact h.read j e ht (by rwa [← hst j ht])
  case stored =>
    intro j e after ht hh
    exact h.stored j e after ht (by rwa [← hst j ht])

/-- When a call has gone on while no other one on its endpoint had the lock, whoever has the lock is the call itself. -/
theorem eq_of_holds (hq : ∀ j, j ≠ i → (calls.get j).target = (calls.get i).target → ¬ (s.stage j).Holds)
    (hs : s'.stage = Function.update s.stage i x) (ht : (calls.get j).target = (calls.get i).target)
    (hh : (s'.stage j).Holds) : j = i := by
  by_contra hj
  rw [show s'.stage j = s.stage j by simp [hs, hj]] at hh
  exact hq j hj ht hh

/-- A call goes on that has the lock afterwards or had it before, so that no other call on its endpoint has it. -/
theorem linked_of_alone (hq : ∀ j, j ≠ i → (calls.get j).target = (calls.get i).target → ¬ (s.stage j).Holds)
    (hs : s'.stage = Function.update s.stage i x) (hn : order.Nodup)
    (hm : ∀ j, j ∈ order ↔ (calls.get j).target = (calls.get i).target ∧ (s'.stage j).Effective)
    (hre : replay limit (r.find? (calls.get i).target, []) (order.map calls.get) =
      (s'.registry.find? (calls.get i).target,
        s'.events.filter (·.subject = (calls.get i).target) ++ x.untold limit (calls.get i)))
    (hread : ∀ e, x = .read e → ∃ pre post, order = pre ++ post ∧
      (replay limit (r.find? (calls.get i).target, []) (pre.map calls.get)).1 = some e ∧
      ∀ j ∈ post, (calls.get j).locks = false)
    (hst : ∀ e after, x = .stored e after → after.id = (calls.get i).target) :
    Linked limit r s' (calls.get i).target order := by
  have hsi : s'.stage i = x := by simp [hs]
  constructor
  case nodup => exact hn
  case mem_iff => exact hm
  case replay_eq =>
    refine ⟨x.untold limit (calls.get i), hre, ?_, ?_⟩
    · intro j ht hh
      rw [eq_of_holds hq hs ht hh, hsi]
    · intro hh
      have hx : ¬ x.Holds := hsi ▸ hh i rfl
      cases x <;> first | rfl | exact (hx trivial).elim
  case read =>
    intro j e ht hh
    obtain rfl := eq_of_holds hq hs ht (by rw [hh]; trivial)
    exact hread e (hsi.symm.trans hh)
  case stored =>
    intro j e after ht hh
    obtain rfl := eq_of_holds hq hs ht (by rw [hh]; trivial)
    exact hst e after (hsi.symm.trans hh)

theorem Orderly.alone (h : Orderly s) (hs : s.stage i = x) (hx : x.Holds) :
    ∀ j, j ≠ i → (calls.get j).target = (calls.get i).target → ¬ (s.stage j).Holds :=
  fun j hj ht hh => hj (h.exclusive j i ht hh (hs ▸ hx))

/-- What is known of an endpoint one of whose calls has its lock. -/
theorem Linked.replay_of_holds (h : Linked limit r s (calls.get i).target order) (hs : s.stage i = x)
    (hx : x.Holds) : replay limit (r.find? (calls.get i).target, []) (order.map calls.get) =
      (s.registry.find? (calls.get i).target,
        s.events.filter (·.subject = (calls.get i).target) ++ x.untold limit (calls.get i)) := by
  subst hs
  obtain ⟨untold, hre, hu, _⟩ := h.replay_eq
  rw [hre, hu i rfl hx]

/-- A call that hasn't had its effect yet has it last. -/
theorem Linked.concat (h : Linked limit r s (calls.get i).target order) (s' : Scene calls)
    (hi : ¬ (s.stage i).Effective)
    (hs : s'.stage = Function.update s.stage i x) (hx : x.Effective) {order' : List (Fin calls.length)}
    (hp : order'.Perm (i :: order)) : order'.Nodup ∧
      ∀ j, j ∈ order' ↔ (calls.get j).target = (calls.get i).target ∧ (s'.stage j).Effective := by
  have hni : i ∉ order := fun hm => hi ((h.mem_iff i).mp hm).2
  refine ⟨hp.nodup_iff.mpr (List.nodup_cons.mpr ⟨hni, h.nodup⟩), fun j => ?_⟩
  rw [hp.mem_iff, List.mem_cons, h.mem_iff]
  by_cases hj : j = i
  · subst hj
    simp [hs, hx]
  · simp [hs, hj]

/-- A step that leaves the effects of its call as they are. -/
theorem Linked.mem_iff_of_same (h : Linked limit r s id order) (hs : s'.stage = Function.update s.stage i x)
    (hx : x.Effective ↔ (s.stage i).Effective) :
    ∀ j, j ∈ order ↔ (calls.get j).target = id ∧ (s'.stage j).Effective := by
  intro j
  rw [h.mem_iff]
  by_cases hj : j = i
  · subst hj
    simp [hs, hx]
  · simp [hs, hj]

theorem find?_of_get {e : Endpoint} (h : s.registry.get id = .ok e) : s.registry.find? id = some e := by
  cases hf : s.registry.find? id with
  | none => simp [Registry.get_of_absent hf] at h
  | some e' =>
    rw [Registry.get_of_find? hf] at h
    exact congrArg some (Except.ok.inj h)

theorem absent_of_get {err : RegistryError} (h : s.registry.get id = .error err) :
    s.registry.find? id = none := by
  cases hf : s.registry.find? id with
  | none => rfl
  | some e' => simp [Registry.get_of_find? hf] at h

theorem replay_concat {y : Option Endpoint × List Event} {e : Endpoint} {evs : List Event}
    (h : replay limit y (order.map calls.get) = (some e, evs)) :
    replay limit y ((order ++ [i]).map calls.get) = (some ((calls.get i).effect limit e),
      evs ++ (calls.get i).reports limit e ((calls.get i).effect limit e)) := by
  rw [List.map_append, replay_append, h]
  rfl

/-- A call that has read a record stores its update after others have set something. There is a place for it among
them: last, or where it read. -/
theorem exists_place {pre post : List (Fin calls.length)} {y : Option Endpoint × List Event} {e : Endpoint}
    {evs : List Event} {u : HealthUpdate} (hu : (calls.get i).update? limit e = some u)
    (hpre : replay limit y (pre.map calls.get) = (some e, evs))
    (hpost : ∀ j ∈ post, (calls.get j).locks = false) :
    ∃ (x : Endpoint) (order' : List (Fin calls.length)),
      replay limit y ((pre ++ post).map calls.get) = (some x, evs) ∧
      order'.Perm (i :: (pre ++ post)) ∧ replay limit y (order'.map calls.get) =
        (some (x.update u), evs ++ (calls.get i).reports limit e (x.update u)) := by
  obtain ⟨b, p, hset⟩ := exists_set limit (post.map calls.get) (by
    intro c hc
    obtain ⟨j, hj, rfl⟩ := List.mem_map.mp hc
    exact hpost j hj)
  have hboth : replay limit y ((pre ++ post).map calls.get) = (some (e.set b p), evs) := by
    rw [List.map_append, replay_append, hpre, hset]
  rcases Call.late_or_early hu b p with ⟨heff, hrep⟩ | ⟨heff, hrep⟩
  · refine ⟨e.set b p, pre ++ post ++ [i], hboth, List.perm_append_singleton _ _, ?_⟩
    rw [replay_concat hboth, heff, hrep]
  · refine ⟨e.set b p, pre ++ [i] ++ post, hboth, ?_, ?_⟩
    · rw [List.append_assoc]
      exact List.perm_middle
    · rw [List.map_append, replay_append, replay_concat hpre, hset, heff, hrep]

/-! What each step leaves of the endpoint that its call is for -/

theorem linked_lock (h : Linked limit r s (calls.get i).target order) (hw : s.stage i = .waiting)
    (hf : ∀ j, (calls.get j).target = (calls.get i).target → ¬ (s.stage j).Holds) :
    Linked limit r (s.set i .locked) (calls.get i).target order := by
  obtain ⟨untold, hre, _, hn⟩ := h.replay_eq
  rw [hn hf] at hre
  exact linked_of_alone (fun j _ ht => hf j ht) rfl h.nodup
    (h.mem_iff_of_same rfl (by simp [hw, Stage.Effective])) hre (by simp) (by simp)

/-- What is read has come about by all that has had its effect, and nothing has been set since. -/
theorem linked_read {e : Endpoint} (ho : Orderly s) (h : Linked limit r s (calls.get i).target order)
    (hs : s.stage i = .locked) (hr : s.registry.get (calls.get i).target = .ok e) :
    Linked limit r (s.set i (.read e)) (calls.get i).target order := by
  have hre := h.replay_of_holds hs trivial
  refine linked_of_alone (ho.alone hs trivial) rfl h.nodup
    (h.mem_iff_of_same rfl (by simp [hs, Stage.Effective])) hre ?_ (by simp)
  rintro _ ⟨⟩
  refine ⟨order, [], by simp, ?_, by simp⟩
  rw [hre]
  exact find?_of_get hr

/-- A call that finds nothing comes last: in its place too it finds nothing. -/
theorem linked_miss {err : RegistryError} (ho : Orderly s) (h : Linked limit r s (calls.get i).target order)
    (hs : s.stage i = .locked) (hr : s.registry.get (calls.get i).target = .error err) :
    Linked limit r (s.set i .told) (calls.get i).target (order ++ [i]) := by
  have hre := h.replay_of_holds hs trivial
  rw [absent_of_get hr] at hre
  obtain ⟨hn, hm⟩ := h.concat (s.set i .told) (by simp [hs, Stage.Effective]) rfl trivial
    (List.perm_append_singleton _ _)
  refine linked_of_alone (ho.alone hs trivial) rfl hn hm ?_ (by simp) (by simp)
  rw [List.map_append, replay_append, hre]
  exact congrArg (·, _) (absent_of_get hr).symm

theorem linked_store {e after : Endpoint} {u : HealthUpdate} {r' : Registry}
    (ho : Orderly s) (h : Linked limit r s (calls.get i).target order) (hs : s.stage i = .read e)
    (hu : (calls.get i).update? limit e = some u)
    (hr : s.registry.applyHealth (calls.get i).target u = .ok (r', after)) :
    ∃ order', Linked limit r { s.set i (.stored e after) with registry := r' } (calls.get i).target order' := by
  have hre := h.replay_of_holds hs trivial
  obtain ⟨pre, post, rfl, hpre, hpost⟩ := h.read i e rfl hs
  generalize hy : replay limit (r.find? (calls.get i).target, []) (pre.map calls.get) = y at hpre
  obtain ⟨_, evs⟩ := y
  obtain rfl : _ = some e := hpre
  obtain ⟨x, order', hx, hp, hrep⟩ := exists_place hu hy hpost
  rw [hx] at hre
  obtain ⟨hfind, hevs⟩ := Prod.mk.inj hre
  have hid : x.id = (calls.get i).target := Registry.id_of_find? hfind.symm
  rw [Registry.applyHealth, Registry.modify_of_find? hfind.symm] at hr
  obtain ⟨rfl, rfl⟩ := Prod.mk.inj (Except.ok.inj hr)
  obtain ⟨hn, hm⟩ := h.concat (s.set i (.stored e (x.update u))) (by simp [hs, Stage.Effective]) rfl trivial hp
  refine ⟨order', linked_of_alone (ho.alone hs trivial) rfl hn hm ?_ (by simp) ?_⟩
  · have hput : (s.registry.put (x.update u)).find? (calls.get i).target = some (x.update u) := by
      rw [Registry.find?_put]
      exact if_pos hid
    rw [hrep, hevs]
    simp only [Stage.untold, List.append_nil]
    exact congrArg (·, _) hput.symm
  · rintro _ _ ⟨⟩
    exact hid

theorem not_lost {e : Endpoint} {u : HealthUpdate} (h : Linked limit r s (calls.get i).target order)
    (hs : s.stage i = .read e) (hu : (calls.get i).update? limit e = some u) (err : RegistryError) :
    s.registry.applyHealth (calls.get i).target u ≠ .error err := by
  have hre := h.replay_of_holds hs trivial
  obtain ⟨pre, post, rfl, hpre, hpost⟩ := h.read i e rfl hs
  generalize hy : replay limit (r.find? (calls.get i).target, []) (pre.map calls.get) = y at hpre
  obtain ⟨_, evs⟩ := y
  obtain rfl : _ = some e := hpre
  obtain ⟨x, _, hx, _⟩ := exists_place hu hy hpost
  rw [hx] at hre
  rw [Registry.applyHealth, Registry.modify_of_find? (Prod.mk.inj hre).1.symm]
  simp

theorem linked_tell {e after : Endpoint} (ho : Orderly s) (h : Linked limit r s (calls.get i).target order)
    (hs : s.stage i = .stored e after) :
    Linked limit r { s.set i .told with events := s.events ++ (calls.get i).reports limit e after }
      (calls.get i).target order := by
  refine linked_of_alone (ho.alone hs trivial) rfl h.nodup
    (h.mem_iff_of_same rfl (by simp [hs, Stage.Effective])) ?_ (by simp) (by simp)
  rw [h.replay_of_holds hs trivial, List.filter_append, Call.filter_reports (h.stored i e after rfl hs), if_pos rfl]
  simp [Stage.untold, Scene.set]

theorem linked_unlock (ho : Orderly s) (h : Linked limit r s (calls.get i).target order)
    (hs : s.stage i = .told) : Linked limit r (s.set i .done) (calls.get i).target order := by
  have hre := h.replay_of_holds hs trivial
  exact linked_of_alone (ho.alone hs trivial) rfl h.nodup
    (h.mem_iff_of_same rfl (by simp [hs, Stage.Effective])) hre (by simp) (by simp)

theorem serveOne_of_unlocked {c : Call} (hl : c.locks = false) (reg : Registry) (evs : List Event) :
    serveOne limit (reg.find? c.target, evs) c = ((serve limit (reg, []) c).1.find? c.target, evs) := by
  have hp := project_serve limit (reg, []) c c.target
  rw [if_pos rfl] at hp
  rw [show (serve limit (reg, []) c).1.find? c.target = (serveOne limit (project c.target (reg, [])) c).1 from
    congrArg Prod.fst hp]
  cases hf : reg.find? c.target with
  | none => simp [serveOne, project, hf]
  | some e =>
    have hr : c.reports limit e (c.effect limit e) = [] := by
      cases c with
      | act a => cases a <;> simp_all [Call.locks, Call.reports]
      | setPriority => rfl
    simp [serveOne, project, hf, hr]

/-- A call without the lock comes last, whoever has the lock. -/
theorem linked_pass (h : Linked limit r s (calls.get i).target order)
    (hw : s.stage i = .waiting) (hl : (calls.get i).locks = false) :
    Linked limit r
      { s.set i .done with registry := (serve limit (s.registry, []) (calls.get i)).1 }
      (calls.get i).target (order ++ [i]) := by
  have hsi : (s.set i .done).stage i = .done := by simp [Scene.set]
  have hsj : ∀ j, j ≠ i → (s.set i .done).stage j = s.stage j := fun j hj => by simp [Scene.set, hj]
  have hne : ∀ j, (s.stage j).Holds → j ≠ i := by
    rintro j hj rfl
    rw [hw] at hj
    exact hj
  obtain ⟨hn, hm⟩ := h.concat (s.set i .done) (by simp [hw, Stage.Effective]) rfl trivial
    (List.perm_append_singleton _ _)
  obtain ⟨untold, hre, hu, hq⟩ := h.replay_eq
  constructor
  case nodup => exact hn
  case mem_iff => exact hm
  case replay_eq =>
    refine ⟨untold, ?_, ?_, ?_⟩
    · rw [List.map_append, replay_append, hre]
      exact serveOne_of_unlocked hl s.registry _
    · intro j ht hj
      have hji : j ≠ i := fun he => by simp [he, hsi, Stage.Holds] at hj
      simp only [hsj j hji] at hj ⊢
      exact hu j ht hj
    · intro hh
      refine hq fun j ht hj => hh j ht ?_
      simpa only [hsj j (hne j hj)] using hj
  case read =>
    intro j e ht hj
    have hji : j ≠ i := fun he => by simp [he, hsi] at hj
    simp only [hsj j hji] at hj
    obtain ⟨pre, post, rfl, hpre, hpost⟩ := h.read j e ht hj
    refine ⟨pre, post ++ [i], by simp, hpre, fun k hk => ?_⟩
    rcases List.mem_append.mp hk with hk | hk
    · exact hpost k hk
    · rw [List.mem_singleton.mp hk, hl]
  case stored =>
    intro j e after ht hj
    have hji : j ≠ i := fun he => by simp [he, hsi] at hj
    simp only [hsj j hji] at hj
    exact h.stored j e after ht hj

/-- A step of a call that leaves its own endpoint linked, and nothing else touched. -/
theorem exists_linked (hl : ∀ id, ∃ order, Linked limit r s id order)
    (hs : s'.stage = Function.update s.stage i x)
    (hp : ∀ id, (calls.get i).target ≠ id →
      project id (s'.registry, s'.events) = project id (s.registry, s.events))
    (hi : ∃ order, Linked limit r s' (calls.get i).target order) (id : String) :
    ∃ order, Linked limit r s' id order := by
  by_cases ht : (calls.get i).target = id
  · exact ht ▸ hi
  · obtain ⟨order, h⟩ := hl id
    exact ⟨order, h.other ht hs (hp id ht)⟩

/-- Every step leaves each endpoint's calls linked. -/
theorem linked_step (ho : Orderly s) (hl : ∀ id, ∃ order, Linked limit r s id order)
    (hs : Step limit s s') : ∀ id, ∃ order, Linked limit r s' id order := by
  cases hs with
  | @lock i hw _ hf =>
    obtain ⟨order, h⟩ := hl (calls.get i).target
    exact exists_linked hl rfl (fun _ _ => rfl) ⟨order, linked_lock h hw hf⟩
  | @read i e hst hr =>
    obtain ⟨order, h⟩ := hl (calls.get i).target
    exact exists_linked hl rfl (fun _ _ => rfl) ⟨order, linked_read ho h hst hr⟩
  | @miss i err hst hr =>
    obtain ⟨order, h⟩ := hl (calls.get i).target
    exact exists_linked hl rfl (fun _ _ => rfl) ⟨order ++ [i], linked_miss ho h hst hr⟩
  | @store i e u r' after hst hu hr =>
    obtain ⟨order, h⟩ := hl (calls.get i).target
    refine exists_linked hl rfl (fun id ht => ?_) (linked_store ho h hst hu hr)
    exact congrArg (·, _) (Registry.find?_modify_of_ne hr ht)
  | @lose i e u err hst hu hr =>
    obtain ⟨order, h⟩ := hl (calls.get i).target
    exact (not_lost h hst hu err hr).elim
  | @tell i e after hst =>
    obtain ⟨order, h⟩ := hl (calls.get i).target
    refine exists_linked hl rfl (fun id ht => congrArg (_, ·) ?_) ⟨order, linked_tell ho h hst⟩
    rw [List.filter_append, Call.filter_reports (h.stored i e after rfl hst), if_neg ht, List.append_nil]
  | @unlock i hst =>
    obtain ⟨order, h⟩ := hl (calls.get i).target
    exact exists_linked hl rfl (fun _ _ => rfl) ⟨order, linked_unlock ho h hst⟩
  | @pass i hw hk =>
    obtain ⟨order, h⟩ := hl (calls.get i).target
    refine exists_linked hl rfl (fun id ht => congrArg (·, _) ?_) ⟨order ++ [i], linked_pass h hw hk⟩
    have hp := project_serve limit (s.registry, []) (calls.get i) id
    rw [if_neg ht] at hp
    exact congrArg Prod.fst hp

end
end ProxyWatch.Failover
