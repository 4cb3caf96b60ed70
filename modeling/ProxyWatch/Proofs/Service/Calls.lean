import ProxyWatch.Proofs.Watch.Writing
import ProxyWatch.Service

/-! Calls to the service as steps between which anything else can happen: other calls, probes that land, sessions that
go on. -/
namespace ProxyWatch

namespace Service

/-- Another registry takes the place of the one of a service, and is saved. -/
def commit (s : Service) (r : Registry) : Service :=
  { s with watch := { s.watch with
    store := (s.watch.store.commit s.watch.files s.watch.clock r).1
    files := (s.watch.store.commit s.watch.files s.watch.clock r).2 } }

/-- One thing that happens to a service. Priorities are 32-bit numbers, and the calendar clock shows a time. -/
inductive Step (s : Service) : Service → Prop
  | insert {e : Endpoint} (hid : Blank.isAllBlank e.id = false) (hurl : checkProxyUrl e.id e.url = .ok ())
      (ha : s.watch.store.registry.find? e.id = none) (hp : e.priority ≤ maxU32) :
      Step s (s.change (.upsert e.resetHealth)).1
  | remove (id : String) : Step s (s.remove id).1
  | disable (id : String) : Step s (s.disable id).1
  | reprioritize (id : String) {priority : Nat} (hp : priority ≤ maxU32) : Step s (s.reprioritize id priority).1
  /-- An endpoint is given back to use; its probe is still to come. -/
  | reenable {id : String} {r : Registry} {e : Endpoint} {events : List Event}
      (h : Failover.reenable s.watch.store.registry id = .ok (r, e, events)) :
      Step s { s with watch := (s.commit r).watch.note events }
  | start (target : String) : Step s (s.startSession target).1
  /-- A session is asked to stop; its end is still to come. -/
  | ask (target : String) : Step s { s with watch := s.watch.modifySession target Session.stop }
  | stir {w : Watch} (h : s.watch.Stir w) : Step s { s with watch := w }
  /-- The world around the service changes: the clock, the files, what proxies reply and what captures do. -/
  | around {clock : Timestamp} (hc : clock.IsValid) (files : FileTree) (replies : Replies) (launcher : Launcher) :
      Step s { s with watch := { s.watch with
        clock := clock, files := files, replies := replies, launcher := launcher } }

/-- Any number of steps. -/
abbrev Steps : Service → Service → Prop := Relation.ReflTransGen Step

/-- What a service can be asked for. -/
inductive Call
  | add (e : Endpoint)
  | remove (id : String)
  | enable (id : String)
  | disable (id : String)
  | reprioritize (id : String) (priority : Nat)
  | check (id : String)
  | cycle
  | startLoop
  | stopLoop
  | startSession (target : String)
  | stopSession (target : String)
  | shutdown
  /-- To go on by itself for some milliseconds. -/
  | idle (ms : Nat)

/-- The priority that a call sets is a 32-bit number. -/
def Call.Bounded : Call → Prop
  | add e => e.priority ≤ maxU32
  | reprioritize _ priority => priority ≤ maxU32
  | _ => True

/-- The service after a call. -/
def after (s : Service) : Call → Service
  | .add e => (s.add e).1
  | .remove id => (s.remove id).1
  | .enable id => (s.enable id).1
  | .disable id => (s.disable id).1
  | .reprioritize id priority => (s.reprioritize id priority).1
  | .check id => (s.check id).1
  | .cycle => s.cycle.1
  | .startLoop => s.startLoop.1
  | .stopLoop => s.stopLoop
  | .startSession target => (s.startSession target).1
  | .stopSession target => (s.stopSession target).1
  | .shutdown => s.shutdown
  | .idle ms => { s with watch := s.watch.advance ms }

variable {s s' : Service} {w : Watch} {e : Endpoint} {id target : String} {c : Call}

/-! What a service does itself -/

/-- The files are as they were, and so is the store, or it has another registry and that was saved. -/
def Writes (s s' : Service) : Prop := (s'.watch.store = s.watch.store ∧ s'.watch.files = s.watch.files) ∨
  ∃ r, s'.watch.store = (s.commit r).watch.store ∧ s'.watch.files = (s.commit r).watch.files

/-- A step of the service itself, not of the world around it. -/
structure Own (s s' : Service) : Prop where
  step : Step s s'
  writes : Writes s s'

/-- Any number of steps of the service itself. -/
abbrev OwnSteps : Service → Service → Prop := Relation.ReflTransGen Own

theorem change_cases (s : Service) (c : Change) : (s.change c).1 = s ∨
    ∃ r e, s.watch.store.registry.change c = .ok (r, e) ∧ (s.change c).1 = s.commit r := by
  unfold change
  cases h : s.watch.store.registry.change c with
  | error e => exact .inl (by rw [Store.change_of_error h])
  | ok x =>
    obtain ⟨r, e⟩ := x
    right
    refine ⟨r, e, rfl, ?_⟩
    rw [Store.change_of_ok h]
    rfl

theorem own_change {c : Change} (h : Step s (s.change c).1) : Own s (s.change c).1 := by
  refine ⟨h, ?_⟩
  rcases s.change_cases c with he | ⟨r, e, hr, he⟩
  · rw [he]
    exact .inl ⟨rfl, rfl⟩
  · rw [he]
    exact .inr ⟨r, rfl, rfl⟩

theorem own_stir (h : s.watch.Stir w) : Own s { s with watch := w } := by
  refine ⟨.stir h, ?_⟩
  obtain ⟨-, -, ⟨hs, hf⟩ | ⟨id, x, result, -, he⟩⟩ := h.store_cases
  · exact .inl ⟨hs, hf⟩
  · obtain ⟨hs, hf⟩ := Prod.mk.inj he
    exact .inr ⟨_, hs, hf⟩

theorem own_reenable {r : Registry} {events : List Event}
    (h : Failover.reenable s.watch.store.registry id = .ok (r, e, events)) :
    Own s { s with watch := (s.commit r).watch.note events } := ⟨.reenable h, .inr ⟨r, rfl, rfl⟩⟩

theorem own_ask (s : Service) (target : String) :
    Own s { s with watch := s.watch.modifySession target Session.stop } := ⟨.ask target, .inl ⟨rfl, rfl⟩⟩

theorem own_start (s : Service) (target : String) : Own s (s.startSession target).1 := by
  refine ⟨.start target, .inl ?_⟩
  unfold startSession
  split <;> exact ⟨rfl, rfl⟩

theorem stirs_own (h : s.watch.Stirs w) : OwnSteps s { s with watch := w } :=
  h.lift (fun w => { s with watch := w }) fun a _ h => own_stir (s := { s with watch := a }) h

/-! Calls that probe -/

theorem stored_of_get (h : s.get id = .ok e) : s.watch.store.registry.find? e.id = some e := by
  cases hf : s.watch.store.registry.find? id with
  | none =>
    rw [get, Registry.get_of_absent hf] at h
    cases h
  | some x =>
    rw [get, Registry.get_of_find? hf] at h
    cases h
    rw [Registry.id_of_find? hf, hf]

theorem check_own (s : Service) (id : String) : OwnSteps s (s.check id).1 := by
  -- How a round is started and awaited stays folded: the bounds in it are too large to be computed with.
  obtain ⟨start, hs, hstart⟩ : ∃ start, Watch.startRound? = start ∧ ∀ w es w' key, start w es false = some (w', key) →
      (∀ e ∈ es, w.store.registry.find? e.id = some e) → w.Stir w' :=
    ⟨_, rfl, fun _ _ _ _ h hs => .send h fun _ => hs⟩
  obtain ⟨finish, hf, hfinish⟩ : ∃ finish, Watch.finishRound = finish ∧ ∀ w key, Watch.Stirs w (finish w key).1 :=
    ⟨_, rfl, Watch.finishRound_stirs⟩
  rw [check, hs, hf]
  split
  · exact .refl
  · rename_i e hg
    split
    · exact .refl
    · rename_i w key hr
      have hs : s.watch.Stir w := hstart _ _ _ _ hr fun x hx => List.mem_singleton.mp hx ▸ stored_of_get hg
      have h : OwnSteps s { s with watch := (finish w key).1 } := stirs_own (.head hs (hfinish w key))
      dsimp only
      split <;> exact h

theorem probed_own (s : Service) (id : String) : OwnSteps s (s.probed id).1 := s.check_own id

theorem add_own (s : Service) (hp : e.priority ≤ maxU32) : OwnSteps s (s.add e).1 := by
  unfold add
  split
  · exact .refl
  · rename_i hid
    split
    · exact .refl
    · rename_i hurl
      split
      · exact .refl
      · rename_i ha
        have hi : OwnSteps s (s.change (.upsert e.resetHealth)).1 :=
          .single (own_change (.insert (by simpa using hid) hurl (by simpa using ha) hp))
        dsimp only
        split
        · exact hi.trans (probed_own _ _)
        · exact hi

theorem enable_own (s : Service) (id : String) : OwnSteps s (s.enable id).1 := by
  unfold enable
  split
  · exact .refl
  · rename_i h
    exact .head (own_reenable h) (probed_own _ _)

theorem cycle_own (s : Service) : OwnSteps s s.cycle.1 := by
  unfold cycle
  cases hc : s.watch.startCycle? with
  | none => exact .refl
  | some x =>
    obtain ⟨w, key⟩ := x
    exact stirs_own (.head (Watch.startCycle_stir hc) (w.finishRound_stirs key))

/-! The health loop -/

theorem startLoop_own (s : Service) : OwnSteps s s.startLoop.1 := by
  unfold startLoop
  split
  · exact .refl
  · exact stirs_own (.single (.loop _))

theorem stopLoop_own (s : Service) : OwnSteps s s.stopLoop := by
  unfold stopLoop
  split
  · exact stirs_own (.tail (.single (.drop _)) (.loop _))
  · exact stirs_own (.single (.loop _))

/-! Sessions -/

theorem stopSession_own (s : Service) (target : String) : OwnSteps s (s.stopSession target).1 := by
  unfold stopSession
  split
  · exact .refl
  · exact .head (s.own_ask target) (stirs_own (Watch.awaitOutcome_stirs _ target _))

/-- Several sessions are asked to stop, one after another. -/
theorem asked_own (s : Service) (targets : List String) : OwnSteps s { s with
    watch := targets.foldl (fun w target => w.modifySession target Session.stop) s.watch } := by
  induction targets generalizing s with
  | nil => exact .refl
  | cons target targets ih =>
    exact .head (s.own_ask target) (ih { s with watch := s.watch.modifySession target Session.stop })

theorem shutdown_own (s : Service) : OwnSteps s s.shutdown := by
  have hloop := s.stopLoop_own
  have hsettle : OwnSteps s.stopLoop { s.stopLoop with watch := s.stopLoop.watch.settle } :=
    stirs_own (Watch.settle_stirs _)
  have hc : s.stopLoop.config = s.config := by
    unfold stopLoop
    split <;> rfl
  let live := (s.stopLoop.watch.settle.runs.filter (!·.isFinished)).map (·.target)
  have hasked := asked_own { s.stopLoop with watch := s.stopLoop.watch.settle } live
  have hend := ((hloop.trans hsettle).trans hasked).trans
    (stirs_own (Watch.await_stirs _ (fun w => live.all fun target => (w.outcome? target).isSome) Watch.horizon))
  dsimp only at hend
  rw [hc] at hend
  exact hend

/-- Every call consists of steps of the service itself. -/
theorem after_own (s : Service) (hc : c.Bounded) : OwnSteps s (s.after c) := by
  cases c with
  | add e => exact s.add_own hc
  | remove id => exact .single (own_change (.remove id))
  | enable id => exact s.enable_own id
  | disable id => exact .single (own_change (.disable id))
  | reprioritize id priority => exact .single (own_change (.reprioritize id hc))
  | check id => exact s.check_own id
  | cycle => exact s.cycle_own
  | startLoop => exact s.startLoop_own
  | stopLoop => exact s.stopLoop_own
  | startSession target => exact .single (s.own_start target)
  | stopSession target => exact s.stopSession_own target
  | shutdown => exact s.shutdown_own
  | idle ms => exact stirs_own (s.watch.advance_stirs ms)

theorem after_steps (s : Service) (hc : c.Bounded) : Steps s (s.after c) :=
  Relation.ReflTransGen.mono (fun _ _ h => Own.step h) _ _ (s.after_own hc)

end Service
end ProxyWatch
