import ProxyWatch.Proofs.Service.Cadence
import ProxyWatch.Proofs.Watch.Flow

/-! What happens to a service, move by move: calls and parts of calls of any number of callers, what goes on by itself
and what happens around it, in any order. -/
namespace ProxyWatch

open Watch (Distinct Fit Flow Flows Foreign)

namespace Service

/-- One thing that happens to a service while nobody starts a session or the health loop. -/
inductive Meanwhile (s : Service) : Service → Prop
  /-- The registry changes. -/
  | change (c : Change) : Meanwhile s (s.change c).1
  /-- An endpoint is given back to use. -/
  | reenable {id : String} {r : Registry} {e : Endpoint} {events : List Event}
      (h : Failover.reenable s.watch.store.registry id = .ok (r, e, events)) :
      Meanwhile s { s with watch := (s.commit r).watch.note events }
  /-- A caller sends probes of stored endpoints. -/
  | send {w : Watch} {es : List Endpoint} {dry : Bool} {key : Nat} (h : s.watch.startRound? es dry = some (w, key))
      (hs : ∀ e ∈ es, s.watch.store.registry.find? e.id = some e) : Meanwhile s { s with watch := w }
  /-- A caller takes its round out, or gives it up. -/
  | drop {key : Nat} (h : s.watch.cycle? ≠ some key) : Meanwhile s { s with watch := s.watch.dropRound key }
  /-- A probe lands. -/
  | land {w : Watch} {key : Nat} {r : Round} (hr : (key, r) ∈ s.watch.rounds) (h : s.watch.land? key r = some w) :
      Meanwhile s { s with watch := w }
  /-- The health loop goes on. -/
  | loop {w : Watch} (h : s.watch.loopStep? = some w) : Meanwhile s { s with watch := w }
  /-- The health loop is ended, with the round that it has on its way. -/
  | stopLoop : Meanwhile s s.stopLoop
  /-- A session goes on. -/
  | go {w : Watch} {r : SessionRun} (hr : r ∈ s.watch.runs) (h : s.watch.runStep? r = some w) :
      Meanwhile s { s with watch := w }
  /-- A session is asked to stop. -/
  | ask (target : String) : Meanwhile s { s with watch := s.watch.modifySession target Session.stop }
  | pass {now : Nat} (hle : s.watch.now ≤ now) : Meanwhile s { s with watch := { s.watch with now := now } }
  /-- The world around the service changes. -/
  | around (clock : Timestamp) (files : FileTree) (replies : Replies) (launcher : Launcher) :
      Meanwhile s { s with watch := { s.watch with
        clock := clock, files := files, replies := replies, launcher := launcher } }

/-- One thing that happens to a service. -/
inductive Move (s : Service) : Service → Prop
  | other {s' : Service} (h : Meanwhile s s') : Move s s'
  | startLoop : Move s s.startLoop.1
  | startSession (target : String) : Move s (s.startSession target).1

/-- Any number of such things. -/
abbrev Meanwhiles : Service → Service → Prop := Relation.ReflTransGen Meanwhile

/-- Any number of things. -/
abbrev Moves : Service → Service → Prop := Relation.ReflTransGen Move

/-- The states into which a service comes with a configuration. -/
inductive Arises (config : Config) : Service → Prop
  | built {registry : Option Registry} {w : Watch} {s : Service} (h : build config registry w = .ok s) :
      Arises config s
  | move {s s' : Service} (h : Arises config s) (hm : Move s s') : Arises config s'

/-- What every state of a service keeps. -/
structure Regular (config : Config) (s : Service) : Prop where
  valid : config.validate = .ok ()
  config_eq : s.config = config
  checking : s.watch.checking = config.checkOptions
  distinct : Distinct s.watch
  /-- The key of the loop's round was given out. -/
  cycle : ∀ key, s.watch.cycle? = some key → key < s.watch.nextKey

variable {config : Config} {s s' : Service} {w w' : Watch} {es : List Endpoint} {dry : Bool} {key : Nat}
  {done : Watch → Bool} {id target : String}

theorem Regular.fit (h : s.Regular config) : Fit s.watch := ⟨h.distinct, Watch.unhurried_of_valid h.valid h.checking⟩

theorem loop_stopLoop (s : Service) : s.stopLoop.watch.loop = none := by
  unfold stopLoop
  split <;> rfl

theorem stopLoop_shape (s : Service) : ∃ rounds, rounds.Sublist s.watch.rounds ∧
    s.stopLoop = { s with watch := { s.watch with rounds, loop := none } } := by
  unfold stopLoop
  split
  · exact ⟨_, List.filter_sublist, rfl⟩
  · exact ⟨_, List.Sublist.refl _, rfl⟩

theorem Regular.send (h : s.Regular config) (hs : s.watch.startRound? es dry = some (w, key)) :
    Regular config { s with watch := w } := by
  have hdistinct := h.distinct.startRound hs
  obtain ⟨_, _, _, _, -, -, -, -, rfl⟩ := Watch.startRound_shape hs
  exact ⟨h.valid, h.config_eq, h.checking, hdistinct, fun key hk => Nat.lt_succ_of_lt (h.cycle key hk)⟩

theorem Regular.loop (h : s.Regular config) (hs : s.watch.loopStep? = some w) :
    Regular config { s with watch := w } := by
  have hdistinct := h.distinct.loopStep hs
  cases Watch.loopStep_cases hs with
  | ended => exact ⟨h.valid, h.config_eq, h.checking, hdistinct, nofun⟩
  | begun _ _ _ hc =>
    obtain ⟨_, _, _, _, -, rfl, -, -, rfl⟩ := Watch.startRound_shape hc
    refine ⟨h.valid, h.config_eq, h.checking, hdistinct, fun key hk => ?_⟩
    obtain rfl : _ = key := Option.some.inj hk
    exact Nat.lt_succ_self _
  | failed => exact ⟨h.valid, h.config_eq, h.checking, hdistinct, nofun⟩

theorem Regular.meanwhile (h : s.Regular config) (hm : Meanwhile s s') : s'.Regular config := by
  cases hm with
  | change c =>
    obtain ⟨_, _, he⟩ := s.change_shape c
    rw [he]
    exact ⟨h.valid, h.config_eq, h.checking, { h.distinct with }, h.cycle⟩
  | reenable | pass | around => exact ⟨h.valid, h.config_eq, h.checking, { h.distinct with }, h.cycle⟩
  | send hs => exact h.send hs
  | drop => exact ⟨h.valid, h.config_eq, h.checking, h.distinct.dropRound _, h.cycle⟩
  | land _ hl =>
    have hdistinct := h.distinct.land hl
    obtain ⟨_, _, _, _, _, _, -, -, rfl⟩ := Watch.land_shape hl
    exact ⟨h.valid, h.config_eq, h.checking, hdistinct, h.cycle⟩
  | loop hs => exact h.loop hs
  | stopLoop =>
    obtain ⟨rounds, hsub, he⟩ := s.stopLoop_shape
    rw [he]
    exact ⟨h.valid, h.config_eq, h.checking, ⟨h.distinct.keys.sublist (hsub.map _),
      fun x hx => h.distinct.fresh x (hsub.subset hx), h.distinct.targets⟩, nofun⟩
  | go _ hs =>
    have hdistinct := h.distinct.runStep hs
    obtain ⟨_, _, _, -, -, rfl⟩ := Watch.runStep_shape hs
    exact ⟨h.valid, h.config_eq, h.checking, hdistinct, h.cycle⟩
  | ask target =>
    exact ⟨h.valid, h.config_eq, h.checking,
      { h.distinct with targets := (targets_ask ..).symm ▸ h.distinct.targets }, h.cycle⟩

theorem Regular.move (h : s.Regular config) (hm : Move s s') : s'.Regular config := by
  cases hm with
  | other hm => exact h.meanwhile hm
  | startLoop =>
    unfold startLoop
    split
    · exact h
    · exact ⟨h.valid, h.config_eq, h.checking, { h.distinct with }, nofun⟩
  | startSession target =>
    have htargets := targets_startSession h.distinct target
    obtain ⟨runs, he⟩ := s.startSession_shape target
    rw [he] at htargets ⊢
    exact ⟨h.valid, h.config_eq, h.checking, { h.distinct with targets := htargets }, h.cycle⟩

theorem regular_build {registry : Option Registry} (h : build config registry w = .ok s) : s.Regular config := by
  obtain ⟨hsteady, hconfig, hloop, -⟩ := steady_build h
  obtain ⟨hv, -⟩ := build_eq_ok h
  refine ⟨hv, hconfig, hsteady.checking.trans (by rw [hconfig]), hsteady.distinct, fun key hk => ?_⟩
  rw [Watch.cycle?, hloop] at hk
  cases hk

theorem Arises.regular (h : Arises config s) : s.Regular config := by
  induction h with
  | built hb => exact regular_build hb
  | move _ hm ih => exact ih.move hm

theorem Regular.meanwhiles (h : s.Regular config) (hm : Meanwhiles s s') : s'.Regular config := by
  induction hm with
  | refl => exact h
  | tail _ hm ih => exact ih.meanwhile hm

theorem Arises.moves (h : Arises config s) (hm : Moves s s') : Arises config s' := by
  induction hm with
  | refl => exact h
  | tail _ hm ih => exact ih.move hm

/-! What is run is made of moves -/

theorem flow_meanwhile (h : Flow done s.watch w) : Meanwhile s { s with watch := w } := by
  cases h with
  | step hs =>
    rcases Watch.step_cases hs with ⟨_, _, hr, hl⟩ | hl | ⟨_, hr, hs⟩
    · exact .land hr hl
    · exact .loop hl
    · exact .go hr hs
  | pass _ _ hle => exact .pass hle

theorem flows_meanwhiles (h : Flows done s.watch w) : Meanwhiles s { s with watch := w } :=
  h.lift (fun w => { s with watch := w }) fun a _ h => flow_meanwhile (s := { s with watch := a }) h

/-- A relation that holds of everything that callers do and of how the program goes on by itself, so that whatever is
run consists of it. -/
structure Covers (config : Config) (R : Service → Service → Prop) : Prop where
  change : ∀ s c, R s (s.change c).1
  reenable : ∀ {s id r e events}, Failover.reenable s.watch.store.registry id = .ok (r, e, events) →
    R s { s with watch := (s.commit r).watch.note events }
  send : ∀ {s es dry w key}, s.watch.startRound? es dry = some (w, key) →
    (∀ e ∈ es, s.watch.store.registry.find? e.id = some e) → R s { s with watch := w }
  drop : ∀ {s key}, s.watch.cycle? ≠ some key → R s { s with watch := s.watch.dropRound key }
  flow : ∀ {s done w}, s.Regular config → Flow done s.watch w → R s { s with watch := w }
  stopLoop : ∀ s, R s s.stopLoop
  ask : ∀ s target, R s { s with watch := s.watch.modifySession target Session.stop }

theorem covers_of_meanwhile {R : Service → Service → Prop} (hR : ∀ s t, Meanwhile s t → R s t) : Covers config R where
  change s _ := hR s _ (.change _)
  reenable h := hR _ _ (.reenable h)
  send h hs := hR _ _ (.send h hs)
  drop h := hR _ _ (.drop h)
  flow _ hf := hR _ _ (flow_meanwhile hf)
  stopLoop s := hR s _ .stopLoop
  ask s target := hR s _ (.ask target)

theorem covers_meanwhile : Covers config Meanwhile := covers_of_meanwhile fun _ _ h => h

namespace Covers

variable {R : Service → Service → Prop}

theorem flows (hR : Covers config R) (h : s.Regular config) (hf : Flows done s.watch w) :
    Relation.ReflTransGen R s { s with watch := w } := by
  induction hf with
  | refl => exact .refl
  | @tail a _ hf hb ih => exact ih.tail (hR.flow (s := { s with watch := a }) (h.meanwhiles (flows_meanwhiles hf)) hb)

/-- A caller sends a round of probes, waits for them and takes the round out. -/
theorem round (hR : Covers config R) (h : s.Regular config) (hs : s.watch.startRound? es dry = some (w, key))
    (hstored : ∀ e ∈ es, s.watch.store.registry.find? e.id = some e) :
    Relation.ReflTransGen R s { s with watch := (w.finishRound key).1 } := by
  have hforeign : Foreign key w := by
    obtain ⟨_, _, _, _, -, rfl, -, -, rfl⟩ := Watch.startRound_shape hs
    exact ⟨Nat.lt_succ_self _, fun he => Nat.lt_irrefl _ (h.cycle _ he)⟩
  have hflows := Watch.await_flows (h.send hs).fit (·.isOver key) Watch.horizon
  have hafter : ∀ u, Flows (·.isOver key) w u → Foreign key u := by
    intro u hu
    induction hu with
    | refl => exact hforeign
    | tail _ hf ih => exact ih.beat hf.beat
  refine .tail (.head (hR.send hs hstored) (hR.flows (s := { s with watch := w }) (h.send hs) hflows)) ?_
  exact hR.drop (hafter _ hflows).2

theorem check (hR : Covers config R) (h : s.Regular config) (id : String) :
    Relation.ReflTransGen R s (s.check id).1 := by
  -- How a round is started and awaited stays folded: the bounds in it are too large to be computed with.
  obtain ⟨start, finish, hs, hf, hround⟩ : ∃ start finish, Watch.startRound? = start ∧ Watch.finishRound = finish ∧
      ∀ es w key, start s.watch es false = some (w, key) →
        (∀ e ∈ es, s.watch.store.registry.find? e.id = some e) →
        Relation.ReflTransGen R s { s with watch := (finish w key).1 } :=
    ⟨_, _, rfl, rfl, fun _ _ _ => hR.round h⟩
  rw [Service.check, hs, hf]
  split
  · exact .refl
  · rename_i e hg
    split
    · exact .refl
    · rename_i w key hr
      have hgoes := hround _ w key hr fun x hx => List.mem_singleton.mp hx ▸ stored_of_get hg
      dsimp only
      split <;> exact hgoes

theorem probed (hR : Covers config R) (h : s.Regular config) (id : String) :
    Relation.ReflTransGen R s (s.probed id).1 := hR.check h id

theorem add (hR : Covers config R) (h : s.Regular config) (e : Endpoint) : Relation.ReflTransGen R s (s.add e).1 := by
  unfold Service.add
  split
  · exact .refl
  · split
    · exact .refl
    · split
      · exact .refl
      · have hchange : R s (s.change (.upsert e.resetHealth)).1 := hR.change s _
        dsimp only
        split
        · exact .head hchange (hR.probed (h.meanwhile (.change _)) e.id)
        · exact .single hchange

theorem enable (hR : Covers config R) (h : s.Regular config) (id : String) :
    Relation.ReflTransGen R s (s.enable id).1 := by
  unfold Service.enable
  split
  · exact .refl
  · rename_i hr
    exact .head (hR.reenable hr) (hR.probed (h.meanwhile (.reenable hr)) id)

theorem healthCycle (hR : Covers config R) (h : s.Regular config) : Relation.ReflTransGen R s s.cycle.1 := by
  unfold Service.cycle
  cases hc : s.watch.startCycle? with
  | none => exact .refl
  | some x =>
    obtain ⟨w, key⟩ := x
    exact hR.round h hc fun e he => Registry.find?_of_mem (List.mem_filter.mp he).1

theorem stopSession (hR : Covers config R) (h : s.Regular config) (target : String) :
    Relation.ReflTransGen R s (s.stopSession target).1 := by
  unfold Service.stopSession
  split
  · exact .refl
  · have hasked : ({ s with watch := s.watch.modifySession target Session.stop } : Service).Regular config :=
      h.meanwhile (.ask target)
    have hawait := Watch.await_flows hasked.fit (fun w => (w.outcome? target).isSome) Watch.horizon
    exact .head (hR.ask s target) (hR.flows hasked hawait)

end Covers

/-! The end of a service -/

/-- The targets whose sessions are under way. -/
def live (s : Service) : List String := (s.watch.runs.filter (!·.isFinished)).map (·.target)

/-- The sessions of some targets are asked to stop. -/
def ask (s : Service) (targets : List String) : Service :=
  { s with watch := targets.foldl (fun w target => w.modifySession target Session.stop) s.watch }

/-- All sessions of some targets have come to their end. -/
def allOver (targets : List String) (w : Watch) : Bool := targets.all fun target => (w.outcome? target).isSome

/-- The service once its loop is ended and all that was due at that instant is done. -/
def looseLoop (s : Service) : Service := { s.stopLoop with watch := s.stopLoop.watch.settle }

theorem shutdown_eq (s : Service) : s.shutdown = { s.looseLoop with
    watch := ((s.looseLoop.ask s.looseLoop.live).watch.await (allOver s.looseLoop.live) Watch.horizon).1 } := by
  obtain ⟨_, -, he⟩ := s.stopLoop_shape
  rw [show s.looseLoop = { s with watch := s.stopLoop.watch.settle } by rw [looseLoop, he]]
  rfl

namespace Covers

variable {R : Service → Service → Prop}

theorem ask_all (hR : Covers config R) (s : Service) (targets : List String) :
    Relation.ReflTransGen R s (s.ask targets) := by
  induction targets generalizing s with
  | nil => exact .refl
  | cons target targets ih =>
    exact .head (hR.ask s target) (ih { s with watch := s.watch.modifySession target Session.stop })

theorem looseLoop (hR : Covers config R) (h : s.Regular config) : Relation.ReflTransGen R s s.looseLoop := by
  have hloop : s.stopLoop.Regular config := h.meanwhile .stopLoop
  have hsettle := (Watch.settle_flows hloop.fit fun _ => false).1
  exact .head (hR.stopLoop s) (hR.flows hloop hsettle)

theorem shutdown (hR : Covers config R) (h : s.Regular config) : Relation.ReflTransGen R s s.shutdown := by
  have hloose : s.looseLoop.Regular config := h.meanwhiles (covers_meanwhile.looseLoop h)
  have hasked := hloose.meanwhiles ((covers_meanwhile : Covers config _).ask_all s.looseLoop s.looseLoop.live)
  have hawait := Watch.await_flows hasked.fit (allOver s.looseLoop.live) Watch.horizon
  rw [shutdown_eq]
  exact ((hR.looseLoop h).trans (hR.ask_all _ _)).trans (hR.flows hasked hawait)

/-- Every call consists of what the relation covers, if it also holds of what starts the health loop or a session. -/
theorem after (hR : Covers config R) (hloop : ∀ s, R s s.startLoop.1)
    (hsession : ∀ s target, R s (s.startSession target).1) (h : s.Regular config) (c : Call) :
    Relation.ReflTransGen R s (s.after c) := by
  cases c with
  | add e => exact hR.add h e
  | remove | disable | reprioritize => exact .single (hR.change s _)
  | enable id => exact hR.enable h id
  | check id => exact hR.check h id
  | cycle => exact hR.healthCycle h
  | startLoop => exact .single (hloop s)
  | stopLoop => exact .single (hR.stopLoop s)
  | startSession target => exact .single (hsession s target)
  | stopSession target => exact hR.stopSession h target
  | shutdown => exact hR.shutdown h
  | idle ms => exact hR.flows h (Watch.advance_flows h.fit ms)

end Covers

theorem ask_meanwhiles (s : Service) (targets : List String) : Meanwhiles s (s.ask targets) :=
  (covers_meanwhile : Covers s.config _).ask_all s targets

/-- Every call consists of moves. -/
theorem Regular.after (h : s.Regular config) (c : Call) : Moves s (s.after c) :=
  (covers_of_meanwhile fun _ _ => Move.other).after (fun _ => .startLoop) (fun _ => .startSession) h c

theorem Arises.after (h : Arises config s) (c : Call) : Arises config (s.after c) := h.moves (h.regular.after c)

end Service
end ProxyWatch
