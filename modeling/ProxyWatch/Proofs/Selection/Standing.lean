import ProxyWatch.Proofs.Failover.Operations
import ProxyWatch.Proofs.Selection.Ranking

/-! What a selection goes by. The status of an endpoint is the one that the latest thing that has happened to it since
its insertion has given it, so that a selection stands on the latest outcomes. -/
namespace ProxyWatch

/-- What happens to an endpoint and bears on its status. -/
inductive Incident
  | inserted
  | reenabled
  /-- An outcome is applied to it. -/
  | judged (level : ProbeLevel)
  deriving DecidableEq

/-- The status that an endpoint has after it. -/
def Incident.status : Incident → HealthStatus
  | inserted | reenabled => .unknown
  | judged level => level.status

/-- What a call does to its endpoint, if it bears on the status. -/
def Failover.Call.incident? : Failover.Call → Option Incident
  | act (.outcome _ o) => some (.judged o.level)
  | act (.reenable _) => some .reenabled
  | _ => none

/-- What has happened to an endpoint since its insertion, with one more operation. To an endpoint that isn't stored
nothing happens but an insertion, and what happened before a deletion is forgotten. -/
def Incident.follow (id : String) (past : List Incident) : Failover.Operation → List Incident
  | .upsert e => if e.id = id ∧ past = [] then [inserted] else past
  | .delete id' => if id' = id then [] else past
  | .call c => if c.target = id ∧ past ≠ [] then past ++ c.incident?.toList else past

/-- The latest thing that has happened to an endpoint since its insertion; none if it isn't stored. -/
def latest? (id : String) (ops : List Failover.Operation) : Option Incident :=
  (ops.foldl (Incident.follow id) []).getLast?

section
variable {limit : Nat} {r r' : Registry} {e : Endpoint} {id : String} {past : List Incident} {c : Failover.Call}
  {op : Failover.Operation} {ops : List Failover.Operation}

/-- The registry has the status that the incidents give. -/
def Standing (id : String) (r : Registry) (past : List Incident) : Prop :=
  (r.find? id).map (·.status) = past.getLast?.map Incident.status

theorem Standing.stored_iff (h : Standing id r past) : (r.find? id).isSome ↔ past ≠ [] := by
  have hs := congrArg Option.isSome h
  rw [Option.isSome_map, Option.isSome_map] at hs
  rw [hs, List.getLast?_isSome]

theorem Standing.absent_iff (h : Standing id r past) : r.find? id = none ↔ past = [] := by
  have hs := h.stored_iff
  cases hf : r.find? id <;> simp_all

theorem Standing.of_find? (h : Standing id r past) (hf : r.find? id = some e) :
    ∃ i, past.getLast? = some i ∧ e.status = i.status := by
  rw [Standing, hf, Option.map_some] at h
  obtain ⟨i, hi, he⟩ := Option.map_eq_some_iff.mp h.symm
  exact ⟨i, hi, he.symm⟩

theorem Standing.of_eq (h : Standing id r past) (hr : r'.find? id = r.find? id) : Standing id r' past := by
  rwa [Standing, hr]

theorem Standing.upsert (h : Standing id r past) (e : Endpoint) :
    Standing id (Failover.operate limit r (.upsert e)) (Incident.follow id past (.upsert e)) := by
  have hfind := Failover.find?_upsert limit r e id
  rw [Incident.follow]
  by_cases hi : e.id = id
  · subst hi
    rw [if_pos rfl] at hfind
    cases hf : r.find? e.id with
    | none =>
      rw [Registry.upsert_of_absent hf] at hfind
      simp [Standing, hfind, h.absent_iff.mp hf, Endpoint.resetHealth, Incident.status]
    | some old =>
      rw [Registry.upsert_of_find? hf] at hfind
      obtain ⟨i, hi, hs⟩ := h.of_find? hf
      have hp : past ≠ [] := h.stored_iff.mp (by simp [hf])
      simp [Standing, hfind, hp, hi, hs]
  · rw [if_neg hi] at hfind
    rw [if_neg fun hc => hi hc.1]
    exact h.of_eq hfind

theorem Standing.delete (h : Standing id r past) (id' : String) :
    Standing id (Failover.operate limit r (.delete id')) (Incident.follow id past (.delete id')) := by
  have hfind := Failover.find?_delete limit r id' id
  rw [Incident.follow]
  by_cases hi : id' = id
  · rw [if_pos hi] at hfind
    rw [if_pos hi, Standing, hfind]
    rfl
  · rw [if_neg hi] at hfind
    rw [if_neg hi]
    exact h.of_eq hfind

theorem Failover.Call.status_effect : (c.effect limit e).status = (c.incident?.map Incident.status).getD e.status := by
  cases c with
  | setPriority => rfl
  | act a =>
    cases a with
    | outcome id o => cases hl : o.level <;> simp [effect, FailoverAct.effect, Endpoint.update, Endpoint.nextUpdate,
        incident?, Incident.status, ProbeLevel.status, hl]
    | reenable | setEnabled => rfl

theorem Standing.call (h : Standing id r past) (c : Failover.Call) :
    Standing id (Failover.operate limit r (.call c)) (Incident.follow id past (.call c)) := by
  have hfind := Failover.find?_call limit r c id
  rw [Incident.follow]
  by_cases ht : c.target = id
  · rw [if_pos ht] at hfind
    cases hf : r.find? id with
    | none =>
      simp [Standing, hfind, hf, h.absent_iff.mp hf]
    | some e =>
      have hp : past ≠ [] := h.stored_iff.mp (by simp [hf])
      obtain ⟨i, hi, hs⟩ := h.of_find? hf
      rw [if_pos ⟨ht, hp⟩, Standing, hfind, hf]
      simp only [Option.map_some, Failover.Call.status_effect]
      cases hc : c.incident? <;> simp [hi, hs]
  · rw [if_neg ht] at hfind
    rw [if_neg fun hc => ht hc.1]
    exact h.of_eq hfind

theorem Standing.operate (h : Standing id r past) (op : Failover.Operation) :
    Standing id (Failover.operate limit r op) (Incident.follow id past op) := by
  cases op with
  | upsert e => exact h.upsert e
  | delete id' => exact h.delete id'
  | call c => exact h.call c

theorem Standing.operations (h : Standing id r past) (ops : List Failover.Operation) :
    Standing id (ops.foldl (Failover.operate limit) r) (ops.foldl (Incident.follow id) past) := by
  induction ops generalizing r past with
  | nil => exact h
  | cons op ops ih => exact ih (h.operate op)

theorem standing_empty (id : String) : Standing id .empty [] := rfl

/-- The status of a stored endpoint is the one that its latest incident has given it. -/
theorem exists_latest (he : e ∈ (Failover.operated limit ops).entries) :
    ∃ i, latest? e.id ops = some i ∧ e.status = i.status :=
  ((standing_empty e.id).operations ops).of_find? (Registry.find?_of_mem he)

/-- The latest incident of a stored endpoint is an outcome exactly when the status says so. -/
theorem latest_iff (he : e ∈ (Failover.operated limit ops).entries) (level : ProbeLevel) :
    latest? e.id ops = some (.judged level) ↔ e.status = level.status := by
  obtain ⟨i, hi, hs⟩ := exists_latest he
  rw [hs, hi]
  cases i with
  | judged level' => cases level <;> cases level' <;> simp [Incident.status, ProbeLevel.status]
  | inserted | reenabled => cases level <;> simp [Incident.status, ProbeLevel.status]

theorem isCandidate_iff_latest (he : e ∈ (Failover.operated limit ops).entries) :
    Selection.isCandidate e = true ↔ e.enabled = true ∧
      (latest? e.id ops = some (.judged .healthy) ∨ latest? e.id ops = some (.judged .degraded)) := by
  rw [Selection.isCandidate_iff, latest_iff he, latest_iff he]
  rfl

end

/-- What is selected from the endpoints of a registry to which some operations have led. -/
structure SelectedByLatest (ops : List Failover.Operation) (r : Registry) (fallback : Bool) : Prop where
  /-- An endpoint is stored as long as something has happened to it since an insertion. -/
  stored_iff : ∀ id, (r.find? id).isSome ↔ (latest? id ops).isSome
  /-- The latest thing that has happened to a selected endpoint is that a probe has found it usable. -/
  usable : ∀ e, Selection.select r.entries fallback = .ok (.endpoint e) → e ∈ r.entries ∧ e.enabled = true ∧
    (latest? e.id ops = some (.judged .healthy) ∨ latest? e.id ops = some (.judged .degraded))
  /-- It is a healthy one if there is any. -/
  healthy : ∀ e, Selection.select r.entries fallback = .ok (.endpoint e) →
    (∃ x ∈ r.entries, x.enabled = true ∧ latest? x.id ops = some (.judged .healthy)) →
    latest? e.id ops = some (.judged .healthy)
  /-- No endpoint is selected only if none is usable, and then a direct connection if it is allowed. -/
  otherwise : (∀ e, Selection.select r.entries fallback ≠ .ok (.endpoint e)) →
    Selection.select r.entries fallback = (if fallback then .ok .direct else .error .noProxyAvailable) ∧
    ∀ x ∈ r.entries, x.enabled = true →
      latest? x.id ops ≠ some (.judged .healthy) ∧ latest? x.id ops ≠ some (.judged .degraded)

/-- However a registry has come about from nothing, a selection from it goes by the latest incidents. -/
theorem select_by_latest (limit : Nat) (ops : List Failover.Operation) (fallback : Bool) :
    SelectedByLatest ops (Failover.operated limit ops) fallback := by
  constructor
  case stored_iff =>
    intro id
    have h : Standing id (Failover.operated limit ops) _ := (standing_empty id).operations ops
    exact h.stored_iff.trans List.getLast?_isSome.symm
  case usable =>
    intro e hs
    obtain ⟨he, hc, -⟩ := Selection.select_endpoint hs
    exact ⟨he, (isCandidate_iff_latest he).mp hc⟩
  case healthy =>
    rintro e hs ⟨x, hx, hen, hl⟩
    obtain ⟨he, hc, hbest⟩ := Selection.select_endpoint hs
    have hcx : Selection.isCandidate x = true := (isCandidate_iff_latest hx).mpr ⟨hen, .inl hl⟩
    exact (latest_iff he .healthy).mpr
      (Selection.healthy_of_prefer ((latest_iff hx .healthy).mp hl) hc (hbest x hx hcx))
  case otherwise =>
    intro hs
    have hnone := Selection.none_of_select hs
    refine ⟨Selection.select_of_none hnone, fun x hx hen => ?_⟩
    have hc : ¬ Selection.isCandidate x = true := by simp [hnone x hx]
    rw [isCandidate_iff_latest hx] at hc
    exact ⟨fun hl => hc ⟨hen, .inl hl⟩, fun hl => hc ⟨hen, .inr hl⟩⟩

end ProxyWatch
