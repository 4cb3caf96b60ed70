import ProxyWatch.Proofs.Watch.Flights

/-! What goes on by itself in the program at work changes no record and writes no file, unless it is the outcome of a
probe. -/
namespace ProxyWatch.Watch

variable {w w' : Watch} {es : List Endpoint} {dry : Bool} {key : Nat} {id : String} {o : ProbeOutcome} {x : Endpoint}

theorem applyOutcome_commit (hx : w.store.registry.find? id = some x) :
    ((w.applyOutcome id o).1.store, (w.applyOutcome id o).1.files) =
      w.store.commit w.files o.checkedAt (w.store.registry.put (x.applied w.limit o).endpoint) := by
  simp only [applyOutcome, Store.applyOutcome, Failover.apply_of_find? hx]
  rfl

/-- Nothing but an outcome changes a record; it changes one, and is saved. -/
theorem Stir.store_cases (h : Stir w w') : w'.limit = w.limit ∧ w'.clock = w.clock ∧
    ((w'.store = w.store ∧ w'.files = w.files) ∨ ∃ id x result, w.store.registry.find? id = some x ∧
      (w'.store, w'.files) = w.store.commit w.files w.clock
        (w.store.registry.put (x.applied w.limit (.ofResult w.clock result)).endpoint)) := by
  cases h with
  | pass | drop | loop => exact ⟨rfl, rfl, .inl ⟨rfl, rfl⟩⟩
  | send h =>
    obtain ⟨_, _, _, _, -, -, -, -, rfl⟩ := startRound_shape h
    exact ⟨rfl, rfl, .inl ⟨rfl, rfl⟩⟩
  | go _ h =>
    obtain ⟨_, _, rfl⟩ := Option.map_eq_some_iff.mp h
    exact ⟨rfl, rfl, .inl ⟨rfl, rfl⟩⟩
  | @land _ key r _ h =>
    obtain ⟨f, flights, _, rfl⟩ := land_spec h
    simp only [landed, outcome]
    cases hd : r.dry with
    | true => exact ⟨rfl, rfl, .inl ⟨rfl, rfl⟩⟩
    | false =>
      simp only [Bool.false_eq_true, if_false]
      have hsetting : (w.applyOutcome f.endpoint (.ofResult w.clock f.result)).1.limit = w.limit ∧
          (w.applyOutcome f.endpoint (.ofResult w.clock f.result)).1.clock = w.clock := by
        obtain ⟨_, _, _, -, he⟩ := applyOutcome_shape w f.endpoint (.ofResult w.clock f.result)
        rw [he]
        exact ⟨rfl, rfl⟩
      refine ⟨hsetting.1, hsetting.2, ?_⟩
      cases hf : w.store.registry.find? f.endpoint with
      | none =>
        rw [applyOutcome_of_absent hf]
        exact .inl ⟨rfl, rfl⟩
      | some x =>
        refine .inr ⟨f.endpoint, x, f.result, hf, ?_⟩
        rw [applyOutcome_commit hf]
        cases f.result <;> rfl

end ProxyWatch.Watch
