import ProxyWatch.Proofs.Failover.Streak
import ProxyWatch.Proofs.Watch.Stirring

/-! The moves of the program at work, as far as they bear on the registry and on the probes on their way. -/
namespace ProxyWatch.Watch

/-- One thing that happens. -/
inductive Move (w : Watch) : Watch → Prop
  /-- A round starts; unless it is dry, it probes stored endpoints. -/
  | start {w' : Watch} {es : List Endpoint} {dry : Bool} {key : Nat}
      (h : w.startRound? es dry = some (w', key))
      (hs : dry = false → ∀ e ∈ es, w.store.registry.find? e.id = some e) : Move w w'
  | land {w' : Watch} {key : Nat} {r : Round} (hr : (key, r) ∈ w.rounds)
      (h : w.land? key r = some w') : Move w w'
  | drop (key : Nat) : Move w (w.dropRound key)
  | change {c : Change} {store : Store} {files : FileTree} {e : Endpoint}
      (h : w.store.change w.files w.clock c = .ok (store, files, e)) :
      Move w { w with store := store, files := files }
  | reenable {id : String} {r : Registry} {e : Endpoint} {events : List Event}
      (h : Failover.reenable w.store.registry id = .ok (r, e, events)) :
      Move w ({ w with
        store := (w.store.commit w.files w.clock r).1
        files := (w.store.commit w.files w.clock r).2 }.note events)
  /-- Something that neither the registry nor a probe has to do with. -/
  | rest {w' : Watch} (hs : w'.store = w.store) (hr : w'.rounds = w.rounds)
      (hk : w'.nextKey = w.nextKey) : Move w w'

variable {w w' : Watch}

/-- What goes on by itself is a move. -/
theorem Stir.move (h : Stir w w') : Move w w' := by
  cases h with
  | send h hs => exact .start h hs
  | land hr h => exact .land hr h
  | drop key => exact .drop key
  | pass | loop => exact .rest rfl rfl rfl
  | go _ h =>
    obtain ⟨_, _, rfl⟩ := Option.map_eq_some_iff.mp h
    exact .rest rfl rfl rfl

end ProxyWatch.Watch
