import ProxyWatch.Proofs.Failover.Calls

/-! What is done to a registry: endpoints come and go, and calls bear on them. -/
namespace ProxyWatch.Failover

/-- What is done to a registry. -/
inductive Operation
  | upsert (e : Endpoint)
  | delete (id : String)
  | call (c : Call)

/-- An operation on a registry. What can't be done changes nothing. -/
def operate (limit : Nat) (r : Registry) : Operation → Registry
  | .upsert e => (r.upsert e).1
  | .delete id =>
    match r.delete id with
    | .ok (r, _) => r
    | .error _ => r
  | .call c => (serve limit (r, []) c).1

/-- What some operations make of an empty registry. -/
def operated (limit : Nat) (ops : List Operation) : Registry := ops.foldl (operate limit) .empty

variable {limit : Nat} {r : Registry}

theorem find?_upsert (limit : Nat) (r : Registry) (e : Endpoint) (id : String) :
    (operate limit r (.upsert e)).find? id = if e.id = id then some (r.upsert e).2 else r.find? id :=
  Registry.find?_upsert r e id

theorem find?_delete (limit : Nat) (r : Registry) (id' id : String) :
    (operate limit r (.delete id')).find? id = if id' = id then none else r.find? id := by
  cases hf : r.find? id' with
  | none =>
    simp only [operate, Registry.delete_of_absent hf]
    split
    · rename_i hi
      rw [← hi, hf]
    · rfl
  | some e =>
    obtain ⟨r', hr, hn, ho⟩ := Registry.delete_of_find? hf
    simp only [operate, hr]
    split
    · rename_i hi
      rw [← hi, hn]
    · rename_i hi
      exact ho id hi

theorem find?_call (limit : Nat) (r : Registry) (c : Call) (id : String) :
    (operate limit r (.call c)).find? id =
      if c.target = id then (r.find? id).map (c.effect limit) else r.find? id := by
  have hp := congrArg Prod.fst (project_serve limit (r, []) c id)
  split
  · rename_i ht
    rw [if_pos ht] at hp
    refine hp.trans ?_
    cases hf : r.find? id <;> simp [serveOne, project, hf]
  · rename_i ht
    rw [if_neg ht] at hp
    exact hp

end ProxyWatch.Failover
