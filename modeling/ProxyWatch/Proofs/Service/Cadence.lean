import ProxyWatch.Proofs.Service.Soundness
import ProxyWatch.Proofs.Watch.Cadence

/-! The health loop of a service. It can be started in every state that a service comes into, and then keeps to its
ticks while calls are made. -/
namespace ProxyWatch

open Watch (Distinct Beat Beats Begins Paced Punctual)

namespace Service

variable {config : Config} {s s' : Service} {w w' : Watch} {x : Watch × List Cycle} {cycles : List Cycle}
  {start key : Nat} {es : List Endpoint} {dry : Bool} {id target : String}

/-! Starting the loop -/

/-- What a service always is, so that its loop can be started. -/
structure Steady (s : Service) : Prop where
  checking : s.watch.checking = s.config.checkOptions
  distinct : Distinct s.watch

theorem foldl_seed_shape (seeds : List ProxySeed) (w : Watch) :
    ∃ store files, seeds.foldl seed w = { w with store, files } := by
  induction seeds generalizing w with
  | nil => exact ⟨w.store, w.files, rfl⟩
  | cons p seeds ih =>
    obtain ⟨store, files, hseed⟩ : ∃ store files, seed w p = { w with store, files } := by
      unfold seed
      split
      · exact ⟨w.store, w.files, rfl⟩
      · exact ⟨_, _, rfl⟩
    obtain ⟨store', files', hrest⟩ := ih (seed w p)
    exact ⟨store', files', by rw [List.foldl_cons, hrest, hseed]⟩

theorem steady_build {registry : Option Registry} (h : build config registry w = .ok s) :
    s.Steady ∧ s.config = config ∧ s.watch.loop = none ∧ s.watch.now = w.now := by
  obtain ⟨-, store, rfl, -⟩ := build_eq_ok h
  obtain ⟨_, _, hshape⟩ := foldl_seed_shape config.proxies (opened config store w)
  refine ⟨?_, rfl, by rw [hshape]; rfl, by rw [hshape]; rfl⟩
  constructor
  case checking => rw [hshape]; rfl
  case distinct =>
    rw [hshape]
    exact ⟨.nil, by simp [opened], .nil⟩

theorem targets_startSession (h : Distinct s.watch) (target : String) :
    ((s.startSession target).1.watch.runs.map (·.target)).Nodup := by
  unfold startSession
  split
  · exact h.targets
  · simp only [List.map_append, List.map_cons, List.map_nil]
    refine List.nodup_append.mpr ⟨h.targets.sublist (List.filter_sublist.map _), List.nodup_singleton _, ?_⟩
    rintro a ha b hb
    obtain ⟨r, hr, rfl⟩ := List.mem_map.mp ha
    obtain rfl := List.mem_singleton.mp hb
    simpa using (List.mem_filter.mp hr).2

theorem startSession_shape (s : Service) (target : String) :
    ∃ runs, (s.startSession target).1 = { s with watch := { s.watch with runs } } := by
  unfold startSession
  split
  · exact ⟨s.watch.runs, rfl⟩
  · exact ⟨_, rfl⟩

theorem targets_ask (w : Watch) (target : String) :
    (w.modifySession target Session.stop).runs.map (·.target) = w.runs.map (·.target) := by
  simp only [Watch.modifySession, List.map_map]
  refine List.map_congr_left fun r _ => ?_
  by_cases hr : r.target = target
  · simp only [Function.comp, if_pos hr]
    rfl
  · simp only [Function.comp, if_neg hr]

/-- What a change of the registry leaves as it is. -/
theorem change_shape (s : Service) (c : Change) :
    ∃ store files, (s.change c).1 = { s with watch := { s.watch with store, files } } := by
  rcases s.change_cases c with he | ⟨r, _, -, he⟩
  · exact ⟨s.watch.store, s.watch.files, he⟩
  · exact ⟨_, _, he⟩

theorem Steady.stir (h : s.Steady) (hs : s.watch.Stir w) : Steady { s with watch := w } := by
  cases hs with
  | pass => exact ⟨h.checking, { h.distinct with }⟩
  | send hs =>
    have hdistinct := h.distinct.startRound hs
    obtain ⟨_, _, _, _, -, -, -, -, rfl⟩ := Watch.startRound_shape hs
    exact ⟨h.checking, hdistinct⟩
  | land _ hl =>
    have hdistinct := h.distinct.land hl
    obtain ⟨_, _, _, _, _, _, -, -, rfl⟩ := Watch.land_shape hl
    exact ⟨h.checking, hdistinct⟩
  | drop key => exact ⟨h.checking, h.distinct.dropRound key⟩
  | loop => exact ⟨h.checking, { h.distinct with }⟩
  | go _ hs =>
    have hdistinct := h.distinct.runStep hs
    obtain ⟨_, _, _, -, -, rfl⟩ := Watch.runStep_shape hs
    exact ⟨h.checking, hdistinct⟩

theorem Steady.step (h : s.Steady) (hs : Step s s') : s'.Steady ∧ s'.config = s.config := by
  have hchange : ∀ c, (s.change c).1.Steady ∧ (s.change c).1.config = s.config := by
    intro c
    obtain ⟨_, _, he⟩ := s.change_shape c
    rw [he]
    exact ⟨⟨h.checking, { h.distinct with }⟩, rfl⟩
  cases hs with
  | insert | remove | disable | reprioritize => exact hchange _
  | reenable => exact ⟨⟨h.checking, { h.distinct with }⟩, rfl⟩
  | start target =>
    have htargets := targets_startSession h.distinct target
    obtain ⟨runs, he⟩ := s.startSession_shape target
    rw [he] at htargets ⊢
    exact ⟨⟨h.checking, { h.distinct with targets := htargets }⟩, rfl⟩
  | ask target => exact ⟨⟨h.checking, { h.distinct with targets := (targets_ask ..).symm ▸ h.distinct.targets }⟩, rfl⟩
  | stir hs => exact ⟨h.stir hs, rfl⟩
  | around => exact ⟨⟨h.checking, { h.distinct with }⟩, rfl⟩

theorem Steady.steps (h : s.Steady) (hs : Steps s s') : s'.Steady ∧ s'.config = s.config := by
  induction hs with
  | refl => exact ⟨h, rfl⟩
  | tail _ hs ih =>
    obtain ⟨h', hc⟩ := ih.1.step hs
    exact ⟨h', hc.trans ih.2⟩

theorem Steady.begins (h : s.Steady) (hl : s.watch.loop = none) : Begins s.config s.startLoop.1.watch := by
  unfold startLoop
  rw [hl]
  exact ⟨h.checking, rfl, { h.distinct with }⟩

/-! Calls while the loop is on -/

/-- It goes on to a state of the program. -/
def GoesOnTo (s : Service) (cycles : List Cycle) (w : Watch) : Prop := ∃ cycles', Beats (s.watch, cycles) (w, cycles')

theorem beat_change (h : Distinct s.watch) (c : Change) : Beat s.watch (s.change c).1.watch := by
  obtain ⟨_, _, he⟩ := s.change_shape c
  rw [he]
  exact .change rfl rfl rfl rfl rfl h.targets

theorem goesOn_change (h : Paced config start s.watch cycles) (c : Change) :
    s.GoesOnTo cycles (s.change c).1.watch := Beats.beat .refl (beat_change h.distinct c)

theorem goesOn_check (hv : config.validate = .ok ()) (h : Paced config start s.watch cycles) (id : String) :
    s.GoesOnTo cycles (s.check id).1.watch := by
  -- How a round is started and awaited stays folded: the bounds in it are too large to be computed with.
  obtain ⟨start, finish, hs, hf, hround⟩ : ∃ start finish, Watch.startRound? = start ∧ Watch.finishRound = finish ∧
      ∀ es w key, start s.watch es false = some (w, key) → s.GoesOnTo cycles (finish w key).1 :=
    ⟨_, _, rfl, rfl, fun _ _ _ hs => h.round hv hs⟩
  rw [check, hs, hf]
  split
  · exact ⟨cycles, .refl⟩
  · split
    · exact ⟨cycles, .refl⟩
    · rename_i w key hr
      have hgoes := hround _ w key hr
      dsimp only
      split <;> exact hgoes

theorem goesOn_probed (hv : config.validate = .ok ()) (h : Paced config start s.watch cycles) (s' : Service)
    (hs : Beat s.watch s'.watch) (id : String) : s.GoesOnTo cycles (s'.probed id).1.watch :=
  h.andThen hv (Beats.beat .refl hs) fun _ h' => goesOn_check hv h' id

theorem goesOn_add (hv : config.validate = .ok ()) (h : Paced config start s.watch cycles) (e : Endpoint) :
    s.GoesOnTo cycles (s.add e).1.watch := by
  unfold add
  split
  · exact ⟨cycles, .refl⟩
  · split
    · exact ⟨cycles, .refl⟩
    · split
      · exact ⟨cycles, .refl⟩
      · dsimp only
        split
        · exact goesOn_probed hv h _ (beat_change h.distinct _) e.id
        · exact goesOn_change h _

theorem goesOn_enable (hv : config.validate = .ok ()) (h : Paced config start s.watch cycles) (id : String) :
    s.GoesOnTo cycles (s.enable id).1.watch := by
  unfold enable
  split
  · exact ⟨cycles, .refl⟩
  · refine goesOn_probed hv h _ ?_ id
    exact .change rfl rfl rfl rfl rfl h.distinct.targets

theorem goesOn_cycle (hv : config.validate = .ok ()) (h : Paced config start s.watch cycles) :
    s.GoesOnTo cycles s.cycle.1.watch := by
  unfold cycle
  cases hc : s.watch.startCycle? with
  | none => exact ⟨cycles, .refl⟩
  | some x =>
    obtain ⟨w, key⟩ := x
    exact h.round hv hc

theorem goesOn_startLoop (hv : config.validate = .ok ()) (h : Paced config start s.watch cycles) :
    s.GoesOnTo cycles s.startLoop.1.watch := by
  obtain ⟨l, hl⟩ := Option.isSome_iff_exists.mp (h.punctual hv).goesOn
  rw [startLoop, hl]
  exact ⟨cycles, .refl⟩

theorem goesOn_startSession (h : Paced config start s.watch cycles) (target : String) :
    s.GoesOnTo cycles (s.startSession target).1.watch := by
  have htargets := targets_startSession h.distinct target
  obtain ⟨runs, he⟩ := s.startSession_shape target
  rw [he] at htargets ⊢
  exact Beats.beat .refl (.change rfl rfl rfl rfl rfl htargets)

theorem goesOn_stopSession (hv : config.validate = .ok ()) (h : Paced config start s.watch cycles) (target : String) :
    s.GoesOnTo cycles (s.stopSession target).1.watch := by
  unfold stopSession
  split
  · exact ⟨cycles, .refl⟩
  · have hask : Beat s.watch (s.watch.modifySession target Session.stop) :=
      .change rfl rfl rfl rfl rfl ((targets_ask ..).symm ▸ h.distinct.targets)
    refine h.andThen hv (Beats.beat .refl hask) fun cycles₁ h₁ => ?_
    have hawait := (h₁.lasting (Q := fun _ => True) hv fun _ _ => trivial).await ⟨⟨cycles₁, .refl⟩, trivial⟩
      (fun w => (w.outcome? target).isSome) Watch.horizon
    exact hawait.1

theorem goesOn_idle (hv : config.validate = .ok ()) (h : Paced config start w cycles) (ms : Nat) :
    (w.advance ms).now = w.now + ms ∧ ∃ cycles', Beats (w, cycles) (w.advance ms, cycles') := by
  obtain ⟨⟨hgoes, -⟩, hnow⟩ :=
    (h.lasting (Q := fun _ => True) hv fun _ _ => trivial).advance ⟨⟨cycles, .refl⟩, trivial⟩ ms
  exact ⟨hnow, hgoes⟩

/-- No call but the two that are to end the loop keeps it from going on. -/
theorem goesOn_after (hv : config.validate = .ok ()) (h : Paced config start s.watch cycles) {c : Call}
    (hstop : c ≠ .stopLoop) (hshut : c ≠ .shutdown) : s.GoesOnTo cycles (s.after c).watch := by
  cases c with
  | add e => exact goesOn_add hv h e
  | remove | disable | reprioritize => exact goesOn_change h _
  | enable id => exact goesOn_enable hv h id
  | check id => exact goesOn_check hv h id
  | cycle => exact goesOn_cycle hv h
  | startLoop => exact goesOn_startLoop hv h
  | stopLoop => exact absurd rfl hstop
  | startSession target => exact goesOn_startSession h target
  | stopSession target => exact goesOn_stopSession hv h target
  | shutdown => exact absurd rfl hshut
  | idle ms => exact (goesOn_idle hv h ms).2

/-- The health loop of a valid configuration begins a cycle at every tick, and each cycle is over before the next tick.
It does so whatever the probes come to and when, and whatever happens to the service meanwhile. Time goes on, and so
does the loop, also through every call that is not to end it. It can be started in every state that a service comes
into. -/
theorem loop_keepsTicks (hv : config.validate = .ok ()) :
    (∀ registry w s t, build config registry w = .ok s → Steps s t → t.watch.loop = none →
      Begins config t.startLoop.1.watch) ∧
    ∀ first w cycles, Begins config first → Beats (first, []) (w, cycles) →
      Punctual first.now config.tickMs w cycles ∧
      (∀ ms, (w.advance ms).now = w.now + ms ∧ ∃ cycles', Beats (w, cycles) (w.advance ms, cycles')) ∧
      ∀ s c, s.watch = w → c ≠ .stopLoop → c ≠ .shutdown →
        ∃ cycles', Beats (w, cycles) ((after s c).watch, cycles') := by
  refine ⟨fun registry w s t hb hs hl => ?_, fun first w cycles hb h => ?_⟩
  · obtain ⟨hsteady, hconfig, -⟩ := steady_build hb
    obtain ⟨hsteady', hconfig'⟩ := hsteady.steps hs
    exact hconfig ▸ hconfig' ▸ hsteady'.begins hl
  · have hpaced := (Watch.paced_begins hb).beats hv h
    refine ⟨hpaced.punctual hv, goesOn_idle hv hpaced, ?_⟩
    rintro s c rfl hstop hshut
    exact goesOn_after hv hpaced hstop hshut

/-- A proxy that never replies. In five seconds the loop begins three cycles, two seconds apart. -/
theorem loop_keepsTicks_hanging : ∃ (config : Config) (w : Watch) (s : Service), config.validate = .ok () ∧
    config.proxies.map (fun p => (w.replies.next p.url).1.delay) = [none] ∧ build config none w = .ok s ∧
    ∃ cycles, Beats (s.startLoop.1.watch, []) (s.startLoop.1.watch.advance 5000, cycles) ∧
      cycles.map (·.start) = [4000, 2000, 0] := by
  let config : Config :=
    { health := { intervalSeconds := 2, timeoutSeconds := 1, probeUrl := "http://[::1]/" }
      proxies := [{ id := "p", url := "http://[::1]:1" }] }
  let silence : ProxyWatch.Reply := { delay := none, result := .error (.transport "") }
  let w : Watch := { clock := default, replies := ⟨[("http://[::1]:1", { further := some silence })]⟩ }
  have hv : config.validate = .ok () := by decide +kernel
  obtain ⟨s, hs⟩ := exists_build config w hv nofun
  obtain ⟨-, -, hloop, hnow⟩ := steady_build hs
  obtain ⟨hbegins, hcourse⟩ := loop_keepsTicks hv
  have hb : Begins config s.startLoop.1.watch := hbegins none w s s hs .refl hloop
  obtain ⟨-, htime, -⟩ := hcourse _ _ [] hb .refl
  obtain ⟨hend, cycles, hbeats⟩ := htime 5000
  obtain ⟨hpunctual, -⟩ := hcourse _ _ cycles hb hbeats
  have hfirst : s.startLoop.1.watch.now = 0 := by
    rw [startLoop, hloop]
    exact hnow
  refine ⟨config, w, s, hv, rfl, hs, cycles, hbeats, ?_⟩
  rw [hfirst] at hpunctual hend
  have htick : config.tickMs = 2000 := rfl
  have hthree : 2 < cycles.length := hpunctual.complete 2 (by rw [hend]; decide)
  match cycles, hthree, hpunctual with
  | [c], h, _ => simp at h
  | [c, d], h, _ => simp at h
  | [c, d, e], _, hp =>
    have hc := hp.begins [] c [d, e] rfl
    have hd := hp.begins [c] d [e] rfl
    have he := hp.begins [c, d] e [] rfl
    simp [hc, hd, he, htick]
  | c :: d :: e :: f :: more, _, hp =>
    have hc := hp.begins [] c (d :: e :: f :: more) rfl
    have hpast := hp.past c List.mem_cons_self
    simp only [hend, hc, htick, List.length_cons] at hpast
    omega

end Service
end ProxyWatch
