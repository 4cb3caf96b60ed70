import ProxyWatch.Proofs.Failover.Operations

/-! Updates of health and their reports. Where each update is of the record that the one before has stored, the reported
changes form a chain. -/
namespace ProxyWatch

/-- A reported change of health. -/
structure HealthChange where
  previous : HealthStatus
  current : HealthStatus
  failures : Nat
  responseMs : Option Nat

def Event.healthChange? : Event → Option HealthChange
  | .healthChanged _ previous current failures responseMs => some { previous, current, failures, responseMs }
  | _ => none

/-- The changes of an endpoint's health that are reported, in order. -/
def changesOf (id : String) (es : List Event) : List HealthChange :=
  (es.filter (·.subject = id)).filterMap Event.healthChange?

namespace Failover

/-- An update of a record, with the record as it was found just before and just after. -/
structure Revision where
  before : Endpoint
  update : HealthUpdate
  after : Endpoint

namespace Revision

/-- What is to be reported of it. -/
def events (v : Revision) : List Event :=
  ({ endpoint := v.after, previous := v.before.status, autoDisabled := v.update.enabled = some false } : Applied).events

/-- The updated records follow on each other, the first of them on one with the given status. -/
def Linked (first : HealthStatus) : List Revision → Prop
  | [] => True
  | v :: vs => v.before.status = first ∧ v.after = v.before.update v.update ∧ Linked v.after.status vs

/-- The status after some updates. -/
def reached (first : HealthStatus) (vs : List Revision) : HealthStatus := vs.foldl (fun _ v => v.after.status) first

/-- The change of health that it is, if it is one. -/
def change? (v : Revision) : Option HealthChange :=
  if v.before.status = v.after.status then none
  else some
    { previous := v.before.status, current := v.after.status, failures := v.after.failures
      responseMs := v.after.averageMs }

section
variable {first : HealthStatus} {vs : List Revision} {v : Revision}

theorem reached_concat : reached first (vs ++ [v]) = v.after.status := by
  simp [reached]

theorem Linked.concat (h : Linked first vs) (hb : v.before.status = reached first vs)
    (ha : v.after = v.before.update v.update) : Linked first (vs ++ [v]) := by
  induction vs generalizing first with
  | nil => exact ⟨hb, ha, trivial⟩
  | cons w vs ih => exact ⟨h.1, h.2.1, ih h.2.2 hb⟩

theorem Linked.after_eq (h : Linked first vs) (hv : v ∈ vs) : v.after = v.before.update v.update := by
  induction vs generalizing first with
  | nil => simp at hv
  | cons w vs ih =>
    rcases List.mem_cons.mp hv with rfl | hv
    · exact h.2.1
    · exact ih h.2.2 hv

theorem filterMap_events (v : Revision) : v.events.filterMap Event.healthChange? = v.change?.toList := by
  simp only [events, Applied.events, Applied.changed, change?]
  by_cases hs : v.before.status = v.after.status <;> by_cases hd : v.update.enabled = some false <;>
    simp [hs, hd, Event.healthChange?]

theorem filterMap_flatMap_events (vs : List Revision) :
    (vs.flatMap events).filterMap Event.healthChange? = vs.filterMap change? := by
  induction vs with
  | nil => rfl
  | cons v vs ih =>
    rw [List.flatMap_cons, List.filterMap_append, ih, filterMap_events]
    cases hc : v.change? <;> simp [hc]

/-- Each change begins where the one before ends. -/
theorem Linked.chain (h : Linked first vs) : (vs.filterMap change?).map (·.previous) =
    (first :: (vs.filterMap change?).map (·.current)).dropLast := by
  induction vs generalizing first with
  | nil => rfl
  | cons v vs ih =>
    obtain ⟨hb, -, hvs⟩ := h
    by_cases hs : v.before.status = v.after.status
    · have hc : v.change? = none := if_pos hs
      rw [List.filterMap_cons_none hc, ih hvs, ← hs, hb]
    · have hc : v.change? = some _ := if_neg hs
      rw [List.filterMap_cons_some hc, List.map_cons, List.map_cons, ih hvs, List.dropLast_cons_cons, hb]

/-- The last change ends with the status that is reached. -/
theorem Linked.last (h : Linked first vs) :
    some (reached first vs) = (first :: (vs.filterMap change?).map (·.current)).getLast? := by
  induction vs generalizing first with
  | nil => rfl
  | cons v vs ih =>
    obtain ⟨hb, -, hvs⟩ := h
    have hr : reached first (v :: vs) = reached v.after.status vs := rfl
    rw [hr, ih hvs]
    by_cases hs : v.before.status = v.after.status
    · have hc : v.change? = none := if_pos hs
      rw [List.filterMap_cons_none hc, ← hs, hb]
    · have hc : v.change? = some _ := if_neg hs
      rw [List.filterMap_cons_some hc, List.map_cons, List.getLast?_cons_cons]

theorem differ_of_mem {c : HealthChange} (hc : c ∈ vs.filterMap change?) : c.previous ≠ c.current := by
  obtain ⟨v, -, hv⟩ := List.mem_filterMap.mp hc
  unfold change? at hv
  split at hv
  · cases hv
  · rename_i hs
    cases hv
    exact hs

theorem filterMap_change?_eq_nil_iff :
    vs.filterMap change? = [] ↔ ∀ v ∈ vs, v.before.status = v.after.status := by
  simp [List.filterMap_eq_nil_iff, change?]

end
end Revision

end Failover
end ProxyWatch
