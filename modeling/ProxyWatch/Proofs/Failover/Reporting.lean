import ProxyWatch.Proofs.Failover.Revisions
import ProxyWatch.Proofs.Failover.Serial

/-! What the reports tell about an endpoint. However calls fall between each other, the reported changes of its health
form a chain that leads from the status that it had to the one that it has. -/
namespace ProxyWatch.Failover

/-- Callers at work, with all that they have stored, and the registries that there were before the present one. -/
structure Chronicle (calls : List Call) extends Scene calls where
  revisions : List Revision := []
  past : List Registry := []

section
variable {calls : List Call}

/-- The update that a call has stored in a step, if it has stored one. -/
def revision? (limit : Nat) (s s' : Scene calls) (i : Fin calls.length) : Option Revision :=
  match s.stage i, s'.stage i with
  | .read e, .stored .. => do
    let update ← (calls.get i).update? limit e
    let before ← s.registry.find? (calls.get i).target
    let after ← s'.registry.find? (calls.get i).target
    return { before, update, after }
  | _, _ => none

/-- All updates that were stored in a step. -/
def revised (limit : Nat) (s s' : Scene calls) : List Revision :=
  (List.finRange calls.length).filterMap (revision? limit s s')

namespace Chronicle

/-- No call has begun. -/
def start (r : Registry) (calls : List Call) : Chronicle calls := { toScene := .start r calls }

/-- A call has gone on. -/
def proceed (limit : Nat) (x : Chronicle calls) (s : Scene calls) : Chronicle calls :=
  { toScene := s, revisions := x.revisions ++ revised limit x.toScene s, past := x.past ++ [x.registry] }

/-- Something has been done to the registry meanwhile. -/
def alter (limit : Nat) (x : Chronicle calls) (op : Operation) : Chronicle calls :=
  { x with registry := operate limit x.registry op, past := x.past ++ [x.registry] }

/-- Something happens that doesn't remove the endpoint: a call goes on, or endpoints are inserted, replaced or
removed meanwhile. -/
inductive Step (limit : Nat) (id : String) (x : Chronicle calls) : Chronicle calls → Prop
  | call {s : Scene calls} (h : Failover.Step limit x.toScene s) : Step limit id x (x.proceed limit s)
  | upsert (e : Endpoint) : Step limit id x (x.alter limit (.upsert e))
  | delete {id' : String} (h : id' ≠ id) : Step limit id x (x.alter limit (.delete id'))

/-- Any number of such things. -/
abbrev Steps (limit : Nat) (id : String) : Chronicle calls → Chronicle calls → Prop :=
  Relation.ReflTransGen (Step limit id)

/-- The updates of an endpoint. -/
def about (x : Chronicle calls) (id : String) : List Revision := x.revisions.filter (·.before.id = id)

/-- What has been reported about an endpoint. -/
def told (x : Chronicle calls) (id : String) : List Event := x.events.filter (·.subject = id)

/-- The statuses that an endpoint has had, up to the present one. -/
def statuses (x : Chronicle calls) (id : String) : List (Option HealthStatus) :=
  (x.past ++ [x.registry]).map fun r => (r.find? id).map (·.status)

/-- What the reports about an endpoint say, which was stored as `first` when the calls began. -/
structure Reported (first : Endpoint) (id : String) (x : Chronicle calls) : Prop where
  /-- Each change begins with the status with which the one before ends, and the first one with the status at the
  beginning. -/
  chain : (changesOf id x.events).map (·.previous) =
    (first.status :: (changesOf id x.events).map (·.current)).dropLast
  differ : ∀ c ∈ changesOf id x.events, c.previous ≠ c.current
  /-- The last one ends with the stored status. -/
  last : (x.registry.find? id).map (·.status) = (first.status :: (changesOf id x.events).map (·.current)).getLast?
  silent_iff : changesOf id x.events = [] ↔ ∀ s ∈ x.statuses id, s = some first.status
  /-- Each update causes its own reports, and no other ones come between them. -/
  caused : x.told id = (x.about id).flatMap Revision.events
  updated : ∀ v ∈ x.about id, v.after = v.before.update v.update
  /-- An update that takes the endpoint out of use is one to failed, and is reported as such, with what it stored. -/
  disabled : ∀ v ∈ x.about id, v.before.enabled = true → v.after.enabled = false → v.after.status = .failed ∧
    v.events = (if v.before.status = .failed then [] else
      [.healthChanged id v.before.status .failed v.after.failures v.after.averageMs]) ++
      [.autoDisabled id v.after.failures]

end Chronicle
end

section
variable {limit : Nat} {calls : List Call} {r : Registry} {s s' : Scene calls} {x y : Chronicle calls}
  {i : Fin calls.length} {stage : Stage} {id : String} {first : HealthStatus}

/-! What a step stores -/

theorem filterMap_one {α β : Type} {f : α → Option β} {xs : List α} {a : α} (hn : xs.Nodup) (ha : a ∈ xs)
    (h : ∀ b, b ≠ a → f b = none) : xs.filterMap f = (f a).toList := by
  obtain ⟨pre, post, rfl⟩ := List.append_of_mem ha
  have hnot : a ∉ pre ++ post := (List.nodup_cons.mp (List.nodup_middle.mp hn)).1
  have hne : ∀ b ∈ pre ++ post, f b = none := fun b hb => h b fun hba => hnot (hba ▸ hb)
  have hpre : pre.filterMap f = [] := List.filterMap_eq_nil_iff.mpr fun b hb => hne b (List.mem_append_left _ hb)
  have hpost : post.filterMap f = [] := List.filterMap_eq_nil_iff.mpr fun b hb => hne b (List.mem_append_right _ hb)
  rw [List.filterMap_append, hpre, List.nil_append]
  cases ha : f a with
  | none => rw [List.filterMap_cons_none ha, hpost, Option.toList_none]
  | some b => rw [List.filterMap_cons_some ha, hpost, Option.toList_some]

theorem revision?_of_same (h : s'.stage i = s.stage i) : revision? limit s s' i = none := by
  unfold revision?
  rw [h]
  cases s.stage i <;> rfl

/-- Only the call that goes on can store something. -/
theorem revised_of_update (hs : s'.stage = Function.update s.stage i stage) :
    revised limit s s' = (revision? limit s s' i).toList :=
  filterMap_one (List.nodup_finRange _) (List.mem_finRange i) fun j hj =>
    revision?_of_same (by simp [hs, hj])

/-- A call that doesn't come from reading a record to having stored one stores nothing. -/
theorem revised_eq_nil (hs : s'.stage = Function.update s.stage i stage)
    (h : (∃ e, s.stage i = .read e) → ¬ ∃ e after, stage = .stored e after) : revised limit s s' = [] := by
  have hi : s'.stage i = stage := by simp [hs]
  rw [revised_of_update hs]
  unfold revision?
  rw [hi]
  split
  · rename_i e _ after he
    exact (h ⟨_, he⟩ ⟨_, _, rfl⟩).elim
  · rfl

/-- What is reported of an update is what its call has to report. -/
theorem Call.reports_eq {c : Call} {e before : Endpoint} {u : HealthUpdate} (hu : c.update? limit e = some u)
    (hs : e.status = before.status) (hi : before.id = c.target) :
    c.reports limit e (before.update u) = Revision.events ⟨before, u, before.update u⟩ := by
  cases c with
  | setPriority => simp [update?] at hu
  | act a =>
    cases a with
    | setEnabled => simp [update?] at hu
    | outcome id o =>
      obtain rfl : e.nextUpdate o limit = u := by simpa [update?] using hu
      simp only [reports, Revision.events, hs]
    | reenable id =>
      obtain rfl : e.reenableUpdate = u := by simpa [update?] using hu
      have hi : before.id = id := hi
      by_cases hb : before.status = .unknown <;>
        simp [reports, Revision.events, Applied.events, Applied.changed, Endpoint.update, Endpoint.reenableUpdate, hs,
          hb, hi]

/-- Only a failure takes an endpoint out of use. -/
theorem Call.status_of_update? {c : Call} {e : Endpoint} {u : HealthUpdate} (hu : c.update? limit e = some u)
    (hd : u.enabled = some false) : u.status = .failed := by
  cases c with
  | setPriority => simp [update?] at hu
  | act a =>
    cases a with
    | setEnabled => simp [update?] at hu
    | reenable id =>
      obtain rfl : e.reenableUpdate = u := by simpa [update?] using hu
      simp [Endpoint.reenableUpdate] at hd
    | outcome id o =>
      obtain rfl : e.nextUpdate o limit = u := by simpa [update?] using hu
      cases hl : o.level <;> simp_all [Endpoint.nextUpdate]

namespace Chronicle

/-! How the updates of an endpoint lead to what is stored -/

/-- The updates of an endpoint lead from its first status to the stored one. -/
structure Recorded (first : HealthStatus) (id : String) (x : Chronicle calls) : Prop where
  linked : Revision.Linked first (x.about id)
  current : (x.registry.find? id).map (·.status) = some (Revision.reached first (x.about id))
  steady : (∀ v ∈ x.about id, v.before.status = v.after.status) ↔ ∀ s ∈ x.statuses id, s = some first
  failed : ∀ v ∈ x.about id, v.update.enabled = some false → v.update.status = .failed

theorem recorded_start {e : Endpoint} (he : r.find? id = some e) : Recorded e.status id (start r calls) where
  linked := trivial
  current := by simp [start, Scene.start, he, about, Revision.reached]
  steady := by simp [start, Scene.start, about, statuses, he]
  failed v hv := by simp [start, about] at hv

theorem statuses_of_past (hp : y.past = x.past ++ [x.registry]) :
    y.statuses id = x.statuses id ++ [(y.registry.find? id).map (·.status)] := by
  simp [statuses, hp]

/-- A step that leaves the status of the endpoint as it is, without an update of it. -/
theorem Recorded.same (h : Recorded first id x) (ha : y.about id = x.about id)
    (hs : (y.registry.find? id).map (·.status) = (x.registry.find? id).map (·.status))
    (hp : y.past = x.past ++ [x.registry]) : Recorded first id y := by
  constructor
  case linked => rw [ha]; exact h.linked
  case current => rw [hs, ha]; exact h.current
  case failed => rw [ha]; exact h.failed
  case steady =>
    have hmem : (x.registry.find? id).map (·.status) ∈ x.statuses id := by simp [statuses]
    rw [ha, h.steady, statuses_of_past hp, hs]
    simp only [List.forall_mem_append, List.mem_singleton, forall_eq]
    exact ⟨fun hx => ⟨hx, hx _ hmem⟩, And.left⟩

/-- An update of the endpoint. -/
theorem Recorded.store {v : Revision} (h : Recorded first id x) (ha : y.about id = x.about id ++ [v])
    (hb : x.registry.find? id = some v.before) (hv : y.registry.find? id = some v.after)
    (hu : v.after = v.before.update v.update) (hf : v.update.enabled = some false → v.update.status = .failed)
    (hp : y.past = x.past ++ [x.registry]) : Recorded first id y := by
  have hbefore : v.before.status = Revision.reached first (x.about id) := by
    have hc := h.current
    rw [hb] at hc
    exact Option.some.inj hc
  constructor
  case linked =>
    rw [ha]
    exact h.linked.concat hbefore hu
  case current =>
    rw [ha, Revision.reached_concat, hv]
    rfl
  case failed =>
    rw [ha]
    simp only [List.forall_mem_append, List.mem_singleton, forall_eq]
    exact ⟨h.failed, hf⟩
  case steady =>
    have hmem : some v.before.status ∈ x.statuses id := by simp [statuses, hb]
    rw [ha, statuses_of_past hp, hv]
    simp only [List.forall_mem_append, List.mem_singleton, forall_eq, h.steady, Option.map_some, Option.some.injEq]
    refine and_congr_right fun hx => ?_
    rw [Option.some.inj (hx _ hmem)]
    exact eq_comm

/-! What there is still to report -/

/-- The calls on an endpoint: what one of them has read is still so, and what there is still to report is with the
one that has the lock. -/
structure Awaited (limit : Nat) (first : HealthStatus) (id : String) (x : Chronicle calls) : Prop where
  read : ∀ i e, (calls.get i).target = id → x.stage i = .read e → e.status = Revision.reached first (x.about id)
  untold : ∃ untold, (x.about id).flatMap Revision.events = x.told id ++ untold ∧
    (∀ i, (calls.get i).target = id → (x.stage i).Holds → untold = (x.stage i).untold limit (calls.get i)) ∧
    ((∀ i, (calls.get i).target = id → ¬ (x.stage i).Holds) → untold = [])

theorem awaited_start : Awaited limit first id (start r calls) where
  read i e _ hs := by simp [start, Scene.start] at hs
  untold := ⟨[], rfl, fun _ _ hh => hh.elim, fun _ => rfl⟩

/-- A step that leaves the lock with whom it was, and the call that has it where it was. -/
theorem Awaited.same (h : Awaited limit first id x) (ha : y.about id = x.about id) (ht : y.told id = x.told id)
    (hs : ∀ i, (calls.get i).target = id → y.stage i = x.stage i ∨ ¬ (x.stage i).Holds ∧ ¬ (y.stage i).Holds) :
    Awaited limit first id y := by
  have hsame : ∀ i, (calls.get i).target = id → (y.stage i).Holds → y.stage i = x.stage i := fun i hi hh =>
    (hs i hi).resolve_right fun hn => hn.2 hh
  obtain ⟨untold, hevents, hheld, hfree⟩ := h.untold
  constructor
  case read =>
    intro i e hi hr
    rw [hsame i hi (by rw [hr]; trivial)] at hr
    rw [ha]
    exact h.read i e hi hr
  case untold =>
    refine ⟨untold, by rw [ha, ht, hevents], fun i hi hh => ?_, fun hn => hfree fun i hi hh => ?_⟩
    · have hx := hsame i hi hh
      rw [hx] at hh ⊢
      exact hheld i hi hh
    · rcases hs i hi with hx | hx
      · exact hn i hi (by rwa [hx])
      · exact hx.1 hh

/-- A step of a call that has the lock before or after it, so that no other call on the endpoint has it. -/
theorem Awaited.alone (hi : (calls.get i).target = id)
    (hq : ∀ j, j ≠ i → (calls.get j).target = (calls.get i).target → ¬ (x.stage j).Holds)
    (hs : y.stage = Function.update x.stage i stage)
    (hr : ∀ e, stage = .read e → e.status = Revision.reached first (y.about id))
    (hu : (y.about id).flatMap Revision.events = y.told id ++ stage.untold limit (calls.get i)) :
    Awaited limit first id y := by
  subst hi
  have hsi : y.stage i = stage := by simp [hs]
  constructor
  case read =>
    intro j e ht hj
    obtain rfl := eq_of_holds hq hs ht (by rw [hj]; trivial)
    exact hr e (hsi.symm.trans hj)
  case untold =>
    refine ⟨_, hu, fun j ht hh => ?_, fun hn => ?_⟩
    · rw [eq_of_holds hq hs ht hh, hsi]
    · have hx : ¬ stage.Holds := hsi ▸ hn i rfl
      cases stage <;> first | rfl | exact (hx trivial).elim

theorem Awaited.untold_of_holds (h : Awaited limit first (calls.get i).target x) (hs : x.stage i = stage)
    (hh : stage.Holds) : (x.about (calls.get i).target).flatMap Revision.events =
      x.told (calls.get i).target ++ stage.untold limit (calls.get i) := by
  subst hs
  obtain ⟨untold, hevents, hheld, -⟩ := h.untold
  rw [hevents, hheld i rfl hh]

/-! What each step leaves of it -/

/-- The updates of an endpoint and the reports about it agree with each other and with what is stored. -/
structure Agreed (limit : Nat) (first : HealthStatus) (id : String) (x : Chronicle calls) : Prop where
  recorded : Recorded first id x
  awaited : Awaited limit first id x

/-- What holds at any time. -/
structure Faithful (limit : Nat) (first : HealthStatus) (id : String) (x : Chronicle calls) : Prop
    extends Agreed limit first id x where
  orderly : Orderly x.toScene
  stored : ∀ i e after, x.stage i = .stored e after → after.id = (calls.get i).target

theorem faithful_start {e : Endpoint} (he : r.find? id = some e) :
    Faithful limit e.status id (start r calls) where
  recorded := recorded_start he
  awaited := awaited_start
  orderly := orderly_start
  stored i e after h := by simp [start, Scene.start] at h

theorem Recorded.exists_found (h : Recorded first id x) : ∃ e, x.registry.find? id = some e ∧
    e.status = Revision.reached first (x.about id) :=
  Option.map_eq_some_iff.mp h.current

theorem about_proceed : (x.proceed limit s).about id =
    x.about id ++ (revised limit x.toScene s).filter (·.before.id = id) := List.filter_append ..

theorem about_proceed_of_nil (hn : revised limit x.toScene s = []) : (x.proceed limit s).about id = x.about id := by
  rw [about_proceed, hn, List.filter_nil, List.append_nil]

theorem id_of_mem_revised {v : Revision} (hs : s'.stage = Function.update s.stage i stage)
    (hv : v ∈ revised limit s s') : v.before.id = (calls.get i).target := by
  rw [revised_of_update hs, Option.mem_toList] at hv
  unfold revision? at hv
  split at hv
  · simp only [Option.bind_eq_bind, Option.pure_def, Option.bind_eq_some_iff] at hv
    obtain ⟨u, -, before, hb, after, -, hv⟩ := hv
    cases hv
    exact Registry.id_of_find? hb
  · simp at hv

/-- Nothing comes of a step on another endpoint. -/
theorem Agreed.other (h : Agreed limit first id x) (hi : (calls.get i).target ≠ id)
    (hs : s.stage = Function.update x.stage i stage)
    (hp : project id (s.registry, s.events) = project id (x.registry, x.events)) :
    Agreed limit first id (x.proceed limit s) := by
  obtain ⟨hr, he⟩ := Prod.mk.inj hp
  have ha : (x.proceed limit s).about id = x.about id := by
    rw [about_proceed, List.filter_eq_nil_iff.mpr, List.append_nil]
    intro v hv hid
    exact hi ((id_of_mem_revised hs hv).symm.trans (of_decide_eq_true hid))
  refine ⟨h.recorded.same ha (congrArg (Option.map _) hr) rfl, h.awaited.same ha he fun j hj => .inl ?_⟩
  have hji : j ≠ i := fun hji => hi (hji ▸ hj)
  simp [proceed, hs, hji]

/-- The call that has the lock goes on without storing anything. -/
theorem Agreed.holder (h : Agreed limit first (calls.get i).target x) (hn : revised limit x.toScene s = [])
    (hs : s.stage = Function.update x.stage i stage) (hreg : s.registry = x.registry)
    (hq : ∀ j, j ≠ i → (calls.get j).target = (calls.get i).target → ¬ (x.stage j).Holds)
    (hr : ∀ e, stage = .read e → e.status = Revision.reached first (x.about (calls.get i).target))
    (hu : (x.about (calls.get i).target).flatMap Revision.events =
      s.events.filter (·.subject = (calls.get i).target) ++ stage.untold limit (calls.get i)) :
    Agreed limit first (calls.get i).target (x.proceed limit s) := by
  have ha : (x.proceed limit s).about (calls.get i).target = x.about (calls.get i).target := about_proceed_of_nil hn
  constructor
  case recorded => exact h.recorded.same ha (by rw [proceed, hreg]) rfl
  case awaited => exact .alone rfl hq hs (by rwa [ha]) (by rwa [ha])

theorem agreed_lock (h : Agreed limit first (calls.get i).target x) (hw : x.stage i = .waiting)
    (hf : ∀ j, (calls.get j).target = (calls.get i).target → ¬ (x.stage j).Holds) :
    Agreed limit first (calls.get i).target (x.proceed limit (x.set i .locked)) := by
  refine h.holder (revised_eq_nil rfl (by simp [hw])) rfl rfl (fun j _ ht => hf j ht) (by simp) ?_
  obtain ⟨untold, hevents, -, hfree⟩ := h.awaited.untold
  rw [hevents, hfree hf]
  rfl

/-- What is read has the status that the updates have led to. -/
theorem agreed_read {e : Endpoint} (ho : Orderly x.toScene) (h : Agreed limit first (calls.get i).target x)
    (hs : x.stage i = .locked) (hr : x.registry.get (calls.get i).target = .ok e) :
    Agreed limit first (calls.get i).target (x.proceed limit (x.set i (.read e))) := by
  refine h.holder (revised_eq_nil rfl (by simp [hs])) rfl rfl (ho.alone hs trivial) ?_
    (h.awaited.untold_of_holds hs trivial :)
  rintro _ ⟨⟩
  obtain ⟨e', he, hstatus⟩ := h.recorded.exists_found
  rw [find?_of_get hr] at he
  obtain rfl := Option.some.inj he
  exact hstatus

theorem agreed_store {e after : Endpoint} {u : HealthUpdate} {r' : Registry} (ho : Orderly x.toScene)
    (h : Agreed limit first (calls.get i).target x) (hs : x.stage i = .read e)
    (hu : (calls.get i).update? limit e = some u)
    (hr : x.registry.applyHealth (calls.get i).target u = .ok (r', after)) :
    Agreed limit first (calls.get i).target
      (x.proceed limit { x.set i (.stored e after) with registry := r' }) := by
  obtain ⟨before, hfind, hstatus⟩ := h.recorded.exists_found
  have hid : before.id = (calls.get i).target := Registry.id_of_find? hfind
  rw [Registry.applyHealth_of_find? hfind] at hr
  obtain ⟨rfl, rfl⟩ := Prod.mk.inj (Except.ok.inj hr)
  let s : Scene calls :=
    { x.set i (.stored e (before.update u)) with registry := x.registry.put (before.update u) }
  let v : Revision := ⟨before, u, before.update u⟩
  have hput : s.registry.find? (calls.get i).target = some v.after := by
    rw [Registry.find?_put]
    exact if_pos hid
  have hone : revised limit x.toScene s = [v] := by
    rw [revised_of_update rfl]
    simp [-List.get_eq_getElem, revision?, s, Scene.set, hs, hu, hfind, hput, v]
  have habout : (x.proceed limit s).about (calls.get i).target = x.about (calls.get i).target ++ [v] := by
    rw [about_proceed, hone]
    simp [v, hid]
  have hread : e.status = before.status := (h.awaited.read i e rfl hs).trans hstatus.symm
  have hevents : v.events = (calls.get i).reports limit e (before.update u) := (Call.reports_eq hu hread hid).symm
  constructor
  case recorded => exact h.recorded.store habout hfind hput rfl (Call.status_of_update? hu) rfl
  case awaited =>
    refine .alone rfl (ho.alone hs trivial) rfl (by simp) ?_
    rw [habout, List.flatMap_append, h.awaited.untold_of_holds hs trivial, List.flatMap_singleton, hevents]
    simp [Stage.untold, told, proceed, Scene.set]

theorem agreed_tell {e after : Endpoint} (ho : Orderly x.toScene) (h : Agreed limit first (calls.get i).target x)
    (hs : x.stage i = .stored e after) (hi : after.id = (calls.get i).target) :
    Agreed limit first (calls.get i).target
      (x.proceed limit { x.set i .told with events := x.events ++ (calls.get i).reports limit e after }) := by
  refine h.holder (revised_eq_nil rfl (by simp [hs])) rfl rfl (ho.alone hs trivial) (by simp) ?_
  rw [h.awaited.untold_of_holds hs trivial, List.filter_append, Call.filter_reports hi, if_pos rfl]
  simp [Stage.untold, told]

theorem agreed_unlock (ho : Orderly x.toScene) (h : Agreed limit first (calls.get i).target x)
    (hs : x.stage i = .told) : Agreed limit first (calls.get i).target (x.proceed limit (x.set i .done)) :=
  h.holder (revised_eq_nil rfl (by simp [hs])) rfl rfl (ho.alone hs trivial) (by simp)
    (h.awaited.untold_of_holds hs trivial :)

theorem status_of_unlocked {c : Call} {e : Endpoint} (hl : c.locks = false) :
    (c.effect limit e).status = e.status := by
  cases c with
  | setPriority => rfl
  | act a =>
    cases a with
    | setEnabled => rfl
    | outcome | reenable => simp [Call.locks] at hl

/-- A call without the lock leaves the status as it is. -/
theorem agreed_pass (h : Agreed limit first (calls.get i).target x) (hw : x.stage i = .waiting)
    (hl : (calls.get i).locks = false) :
    Agreed limit first (calls.get i).target
      (x.proceed limit { x.set i .done with registry := (serve limit (x.registry, []) (calls.get i)).1 }) := by
  let s : Scene calls := { x.set i .done with registry := (serve limit (x.registry, []) (calls.get i)).1 }
  have hn : revised limit x.toScene s = [] := revised_eq_nil rfl (by simp [hw])
  constructor
  case recorded =>
    refine h.recorded.same (about_proceed_of_nil hn) ?_ rfl
    have hf := find?_call limit x.registry (calls.get i) (calls.get i).target
    rw [if_pos rfl] at hf
    rw [show (x.proceed limit s).registry.find? (calls.get i).target = _ from hf, Option.map_map]
    exact congrArg (Option.map · _) (funext fun e => status_of_unlocked hl)
  case awaited =>
    refine h.awaited.same (about_proceed_of_nil hn) rfl fun j hj => ?_
    by_cases hji : j = i
    · subst hji
      right
      simp [proceed, Scene.set, hw, Stage.Holds]
    · left
      simp [proceed, Scene.set, hji]

/-- A step of a call leaves all as it is to be if it does so for the endpoint of the call. -/
theorem Faithful.of_own (h : Faithful limit first id x) (hstep : Failover.Step limit x.toScene s)
    (hs : s.stage = Function.update x.stage i stage)
    (hstored : ∀ e after, stage = .stored e after → after.id = (calls.get i).target)
    (hp : (calls.get i).target ≠ id → project id (s.registry, s.events) = project id (x.registry, x.events))
    (hown : (calls.get i).target = id → Agreed limit first id (x.proceed limit s)) :
    Faithful limit first id (x.proceed limit s) := by
  have hagreed : Agreed limit first id (x.proceed limit s) := by
    by_cases hi : (calls.get i).target = id
    · exact hown hi
    · exact h.toAgreed.other hi hs (hp hi)
  refine { hagreed with orderly := orderly_step h.orderly hstep, stored := fun j e after hj => ?_ }
  by_cases hji : j = i
  · subst hji
    exact hstored e after (by simpa [proceed, hs] using hj)
  · exact h.stored j e after (by simpa [proceed, hs, hji] using hj)

theorem faithful_call (h : Faithful limit first id x) (hs : Failover.Step limit x.toScene s) :
    Faithful limit first id (x.proceed limit s) := by
  cases hs with
  | @lock i hw hl hf =>
    refine h.of_own (.lock hw hl hf) rfl (by simp) (fun _ => rfl) ?_
    rintro rfl
    exact agreed_lock h.toAgreed hw hf
  | @read i e hst hr =>
    refine h.of_own (.read hst hr) rfl (by simp) (fun _ => rfl) ?_
    rintro rfl
    exact agreed_read h.orderly h.toAgreed hst hr
  | @miss i err hst hr =>
    refine h.of_own (.miss hst hr) rfl (by simp) (fun _ => rfl) ?_
    rintro rfl
    obtain ⟨e, he, -⟩ := h.recorded.exists_found
    simp [-List.get_eq_getElem, absent_of_get hr] at he
  | @store i e u r' after hst hu hr =>
    refine h.of_own (.store hst hu hr) rfl ?_ (fun hi => congrArg (·, _) (Registry.find?_modify_of_ne hr hi)) ?_
    · rintro _ _ ⟨⟩
      exact Registry.id_of_modify hr
    · rintro rfl
      exact agreed_store h.orderly h.toAgreed hst hu hr
  | @lose i e u err hst hu hr =>
    refine h.of_own (.lose hst hu hr) rfl (by simp) (fun _ => rfl) ?_
    rintro rfl
    obtain ⟨e, he, -⟩ := h.recorded.exists_found
    rw [Registry.applyHealth_of_find? he] at hr
    cases hr
  | @tell i e after hst =>
    have hi := h.stored i e after hst
    refine h.of_own (.tell hst) rfl (by simp) (fun ht => congrArg (_, ·) ?_) ?_
    · rw [List.filter_append, Call.filter_reports hi, if_neg ht, List.append_nil]
    · rintro rfl
      exact agreed_tell h.orderly h.toAgreed hst hi
  | @unlock i hst =>
    refine h.of_own (.unlock hst) rfl (by simp) (fun _ => rfl) ?_
    rintro rfl
    exact agreed_unlock h.orderly h.toAgreed hst
  | @pass i hw hl =>
    refine h.of_own (.pass hw hl) rfl (by simp) (fun hi => congrArg (·, _) ?_) ?_
    · have hf := find?_call limit x.registry (calls.get i) id
      rwa [if_neg hi] at hf
    · rintro rfl
      exact agreed_pass h.toAgreed hw hl

/-- What else is done to the registry changes no status. -/
theorem faithful_alter {op : Operation} (h : Faithful limit first id x)
    (hs : ((operate limit x.registry op).find? id).map (·.status) = (x.registry.find? id).map (·.status)) :
    Faithful limit first id (x.alter limit op) where
  recorded := h.recorded.same rfl hs rfl
  awaited := h.awaited.same rfl rfl fun _ _ => .inl rfl
  orderly := ⟨h.orderly.exclusive, h.orderly.locks⟩
  stored := h.stored

theorem faithful_step (h : Faithful limit first id x) (hs : Step limit id x y) : Faithful limit first id y := by
  cases hs with
  | call hs => exact faithful_call h hs
  | delete hi =>
    refine faithful_alter h ?_
    rw [find?_delete, if_neg hi]
  | upsert e =>
    refine faithful_alter h ?_
    obtain ⟨old, ho, -⟩ := h.recorded.exists_found
    rw [find?_upsert]
    split
    · rename_i hi
      subst hi
      rw [Registry.upsert_of_find? ho, ho]
      rfl
    · rfl

theorem faithful_steps {e : Endpoint} (he : r.find? id = some e) (h : Steps limit id (start r calls) x) :
    Faithful limit e.status id x := by
  induction h with
  | refl => exact faithful_start he
  | tail _ hs ih => exact faithful_step ih hs

/-! What the reports say -/

/-- Once each update has been reported, the reports are those of the updates. -/
theorem Faithful.told_eq (h : Faithful limit first id x)
    (hq : ∀ i e after, (calls.get i).target = id → x.stage i ≠ .stored e after) :
    x.told id = (x.about id).flatMap Revision.events := by
  obtain ⟨untold, hevents, hheld, hfree⟩ := h.awaited.untold
  suffices hu : untold = [] by rw [hevents, hu, List.append_nil]
  by_cases hh : ∃ i, (calls.get i).target = id ∧ (x.stage i).Holds
  · obtain ⟨i, hi, hh⟩ := hh
    rw [hheld i hi hh]
    cases hs : x.stage i with
    | stored e after => exact (hq i e after hi hs).elim
    | waiting | locked | read | told | done => rfl
  · exact hfree fun i hi hi' => hh ⟨i, hi, hi'⟩

/-- An update that takes an endpoint out of use is one to failed, and the last thing reported of it is just that. -/
theorem Faithful.events_of_disabled (h : Faithful limit first id x) {v : Revision} (hv : v ∈ x.about id)
    (hb : v.before.enabled = true) (ha : v.after.enabled = false) : v.after.status = .failed ∧
      v.events = (if v.before.status = .failed then [] else
        [.healthChanged id v.before.status .failed v.after.failures v.after.averageMs]) ++
        [.autoDisabled id v.after.failures] := by
  have hafter := h.recorded.linked.after_eq hv
  have hdisabled : v.update.enabled = some false := by
    rw [hafter] at ha
    cases hu : v.update.enabled with
    | none => simp [Endpoint.update, hu, hb] at ha
    | some b => simpa [Endpoint.update, hu] using ha
  have hfailed : v.after.status = .failed := by
    rw [hafter]
    exact h.recorded.failed v hv hdisabled
  have hid : v.after.id = id := by
    rw [hafter]
    exact of_decide_eq_true (List.mem_filter.mp hv).2
  refine ⟨hfailed, ?_⟩
  by_cases hs : v.before.status = .failed <;>
    simp [Revision.events, Applied.events, Applied.changed, hdisabled, hfailed, hid, hs]

theorem Faithful.reported {e : Endpoint} (h : Faithful limit e.status id x)
    (hq : ∀ i current after, (calls.get i).target = id → x.stage i ≠ .stored current after) : Reported e id x := by
  have hlinked := h.recorded.linked
  have hchanges : changesOf id x.events = (x.about id).filterMap Revision.change? := by
    rw [← Revision.filterMap_flatMap_events, ← h.told_eq hq]
    rfl
  constructor
  case chain => rw [hchanges]; exact hlinked.chain
  case differ => rw [hchanges]; exact fun c => Revision.differ_of_mem
  case last => rw [hchanges, h.recorded.current]; exact hlinked.last
  case silent_iff => rw [hchanges, Revision.filterMap_change?_eq_nil_iff]; exact h.recorded.steady
  case caused => exact h.told_eq hq
  case updated => exact fun v hv => hlinked.after_eq hv
  case disabled => exact fun v => h.events_of_disabled

/-- However calls fall between each other and between insertions and removals, whoever follows the reports about an
endpoint that stays knows its health as soon as no update of it is left to be reported. -/
theorem reported_of_steps {e : Endpoint} (he : r.find? id = some e) (h : Steps limit id (start r calls) x)
    (hq : ∀ i current after, (calls.get i).target = id → x.stage i ≠ .stored current after) : Reported e id x :=
  (faithful_steps he h).reported hq

end Chronicle
end

/-- An endpoint fails and is taken out of use, while it gets another priority and another endpoint goes. -/
theorem Chronicle.reported_race :
    let e : Endpoint := { id := "a", url := "http://a:1", priority := 0 }
    let r : Registry := Registry.empty.put e
    let calls : List Call := [.act (.outcome "a" { level := .failed, responseMs := 0, checkedAt := default })]
    ∃ x : Chronicle calls, Steps 1 "a" (start r calls) x ∧ r.find? "a" = some e ∧
      (∀ i current after, (calls.get i).target = "a" → x.stage i ≠ .stored current after) ∧
      x.told "a" = [.healthChanged "a" .unknown .failed 1 none, .autoDisabled "a" 1] ∧ Reported e "a" x := by
  intro e r calls
  have hfind : r.find? "a" = some e := Registry.find?_put_self
  let failure : Fin calls.length := ⟨0, Nat.one_pos⟩
  let e' : Endpoint := { e with priority := 1 }
  have hup : (operate 1 r (.upsert e')).find? "a" = some e' := by
    rw [find?_upsert, if_pos rfl, Registry.upsert_of_find? (e := e') hfind]
  have hdel : (operate 1 (operate 1 r (.upsert e')) (.delete "b")).find? "a" = some e' := by
    rw [find?_delete, if_neg (by decide), hup]
  have hsteps : Steps 1 "a" (start r calls) _ :=
    .tail (.tail (.tail (.tail (.tail (.tail .refl
      (.call (.lock (i := failure) rfl rfl fun _ _ hj => hj.elim)))
      (.call (.read (i := failure) rfl (Registry.get_of_find? hfind))))
      (.upsert e'))
      (.delete (show "b" ≠ "a" by decide)))
      (.call (.store (i := failure) rfl rfl (Registry.applyHealth_of_find? hdel))))
      (.call (.tell (i := failure) rfl))
  refine ⟨_, hsteps, hfind, ?hq, rfl, reported_of_steps hfind hsteps ?hq⟩
  intro i current after _
  match i with
  | ⟨0, _⟩ => exact Stage.noConfusion

end ProxyWatch.Failover
