import ProxyWatch.Checker.Round
import ProxyWatch.Proofs.Failover.Streak

/-! Outcomes of different endpoints. In whatever order they are applied, they come to what they come to in turn. -/
namespace ProxyWatch

namespace Failover

/-- Applies the outcome of an endpoint and notes a check. What can't be applied changes nothing. -/
def noteOutcome (limit : Nat) (outcome : Endpoint → ProbeOutcome) (x : Registry × List Check) (e : Endpoint) :
    Registry × List Check :=
  match apply limit x.1 e.id (outcome e) with
  | .ok (r, a) => (r, x.2 ++ [{ endpoint := e.id, outcome := outcome e, applied := some a }])
  | .error _ => (x.1, x.2 ++ [{ endpoint := e.id, outcome := outcome e, applied := none }])

/-- Applies the outcomes of some endpoints one after another. -/
def inTurn (limit : Nat) (outcome : Endpoint → ProbeOutcome) (r : Registry) (es : List Endpoint) :
    Registry × List Check := es.foldl (noteOutcome limit outcome) (r, [])

end Failover

/-- The check of an endpoint whose outcome is applied to it as it is. -/
def Endpoint.check (limit : Nat) (outcome : Endpoint → ProbeOutcome) (e : Endpoint) : Check where
  endpoint := e.id
  outcome := outcome e
  applied := some (e.applied limit (outcome e))

/-- The outcomes of some endpoints of a registry have been applied to it, each to its endpoint, and nothing else has
changed. -/
structure Treated (limit : Nat) (outcome : Endpoint → ProbeOutcome) (first : Registry) (es : List Endpoint)
    (r : Registry) : Prop where
  found : ∀ e ∈ es, r.find? e.id = some (e.applied limit (outcome e)).endpoint
  other : ∀ id, (∀ e ∈ es, e.id ≠ id) → r.find? id = first.find? id

variable {limit : Nat} {outcome : Endpoint → ProbeOutcome} {first r r' : Registry} {e : Endpoint}
  {es es' : List Endpoint}

theorem id_applied {o : ProbeOutcome} : (e.applied limit o).endpoint.id = e.id := rfl

theorem treated_nil : Treated limit outcome first [] first :=
  ⟨fun _ h => by simp at h, fun _ _ => rfl⟩

/-- An endpoint whose outcome has not been applied yet is as it was. -/
theorem Treated.find?_eq (h : Treated limit outcome first es r) (he : first.find? e.id = some e)
    (hn : ∀ x ∈ es, x.id ≠ e.id) : r.find? e.id = some e := by
  rw [h.other e.id hn, he]

theorem Treated.cons (h : Treated limit outcome first es r) (hn : ∀ x ∈ es, x.id ≠ e.id) :
    Treated limit outcome first (e :: es) (r.put (e.applied limit (outcome e)).endpoint) := by
  constructor
  case found =>
    intro x hx
    rw [Registry.find?_put, id_applied]
    rcases List.mem_cons.mp hx with rfl | hx
    · rw [if_pos rfl]
    · rw [if_neg (hn x hx).symm, h.found x hx]
  case other =>
    intro id hid
    have hne : e.id ≠ id := hid e List.mem_cons_self
    rw [Registry.find?_put, id_applied, if_neg hne]
    exact h.other id fun x hx => hid x (List.mem_cons_of_mem _ hx)

/-- The order makes no difference. -/
theorem Treated.perm (h : Treated limit outcome first es r) (hp : es.Perm es') : Treated limit outcome first es' r :=
  ⟨fun e he => h.found e (hp.mem_iff.mpr he), fun id hid => h.other id fun e he => hid e (hp.mem_iff.mp he)⟩

theorem Treated.unique (h : Treated limit outcome first es r) (h' : Treated limit outcome first es r') : r = r' := by
  refine Registry.ext_find? fun id => ?_
  by_cases hid : ∃ e ∈ es, e.id = id
  · obtain ⟨e, he, rfl⟩ := hid
    rw [h.found e he, h'.found e he]
  · have hne : ∀ e ∈ es, e.id ≠ id := fun e he hi => hid ⟨e, he, hi⟩
    rw [h.other id hne, h'.other id hne]

/-- What outcomes come to in turn. -/
theorem treated_inTurn (hf : ∀ e ∈ es, first.find? e.id = some e) (hn : (es.map (·.id)).Nodup) :
    (Failover.inTurn limit outcome first es).2 = es.map (Endpoint.check limit outcome) ∧
      Treated limit outcome first es (Failover.inTurn limit outcome first es).1 := by
  induction es using List.reverseRecOn with
  | nil => exact ⟨rfl, treated_nil⟩
  | append_singleton es e ih =>
    rw [List.map_append, List.map_singleton] at hn
    obtain ⟨hes, -, hapart⟩ := List.nodup_append.mp hn
    obtain ⟨hchecks, htreated⟩ := ih (fun x hx => hf x (by simp [hx])) hes
    have hne : ∀ x ∈ es, x.id ≠ e.id := fun x hx => hapart x.id (List.mem_map_of_mem hx) e.id (by simp)
    have happly : Failover.apply limit (Failover.inTurn limit outcome first es).1 e.id (outcome e) = _ :=
      Failover.apply_of_find? (htreated.find?_eq (hf e (by simp)) hne)
    have hstep : Failover.inTurn limit outcome first (es ++ [e]) =
        ((Failover.inTurn limit outcome first es).1.put (e.applied limit (outcome e)).endpoint,
          (Failover.inTurn limit outcome first es).2 ++ [e.check limit outcome]) := by
      rw [Failover.inTurn, List.foldl_append, List.foldl_cons, List.foldl_nil, ← Failover.inTurn, Failover.noteOutcome,
        happly]
      rfl
    rw [hstep]
    exact ⟨by simp [hchecks], (htreated.cons hne).perm (List.perm_append_singleton e es).symm⟩

end ProxyWatch
