import ProxyWatch.Proofs.Service.Exclusive
import ProxyWatch.Proofs.Service.Moves
import ProxyWatch.Proofs.Watch.Probing

/-! Runs of a service as lists of what happens to it: calls and parts of calls of any number of callers, and what goes on
by itself. -/
namespace ProxyWatch
namespace Service

/-- One thing that happens to a service. -/
inductive Deed
  /-- The registry changes. -/
  | change (c : Change)
  /-- An endpoint is given back to use. -/
  | reenable (id : String)
  /-- A caller sends probes. -/
  | send (es : List Endpoint) (dry : Bool)
  /-- A caller takes its round out, or gives it up. -/
  | drop (key : Nat)
  /-- A probe of a round lands. -/
  | land (key : Nat)
  /-- The health loop goes on. -/
  | loop
  | startLoop
  | stopLoop
  /-- A caller starts a session. -/
  | start (target : String)
  /-- A caller asks a session to stop. -/
  | ask (target : String)
  /-- A session goes on. -/
  | go (target : String)
  /-- Time passes. -/
  | pass (now : Nat)
  /-- The world around the service changes. -/
  | around (clock : Timestamp) (files : FileTree) (replies : Replies) (launcher : Launcher)

namespace Deed

/-- The launcher that comes with it. -/
def launcher? : Deed → Option Launcher
  | around _ _ _ launcher => some launcher
  | _ => none

/-- It can happen to a service: callers probe what is stored, the loop's round is taken out by nobody else, and time
passes only once all that is due is done, and no further than to what is due next. -/
def Timely (s : Service) : Deed → Prop
  | send es _ => ∀ e ∈ es, s.watch.store.registry.find? e.id = some e
  | drop key => s.watch.cycle? ≠ some key
  | pass now => s.watch.step? = none ∧ s.watch.now ≤ now ∧ ∀ d ∈ s.watch.due, s.watch.now < d → now ≤ d
  | _ => True

end Deed

/-- The service with the program at work in another state, if there is one. -/
def goTo (s : Service) (w? : Option Watch) : Service := { s with watch := w?.getD s.watch }

/-- The service after something has happened to it. -/
def perform (s : Service) : Deed → Service
  | .change c => (s.change c).1
  | .reenable id =>
    match Failover.reenable s.watch.store.registry id with
    | .ok (r, _, events) => { s with watch := (s.commit r).watch.note events }
    | .error _ => s
  | .send es dry => s.goTo ((s.watch.startRound? es dry).map (·.1))
  | .drop key => s.goTo (some (s.watch.dropRound key))
  | .land key => s.goTo ((s.watch.round? key).bind (s.watch.land? key))
  | .loop => s.goTo s.watch.loopStep?
  | .startLoop => s.startLoop.1
  | .stopLoop => s.stopLoop
  | .start target => (s.startSession target).1
  | .ask target => s.goTo (some (s.watch.modifySession target Session.stop))
  | .go target => s.goTo ((s.watch.run? target).bind s.watch.runStep?)
  | .pass now => s.goTo (some { s.watch with now })
  | .around clock files replies launcher => s.goTo (some { s.watch with clock, files, replies, launcher })

/-- The service after one thing after another has happened to it. -/
def run (s : Service) (ds : List Deed) : Service := ds.foldl perform s

/-- One thing after another can happen to a service. -/
def Timely (s : Service) : List Deed → Prop
  | [] => True
  | d :: ds => d.Timely s ∧ (s.perform d).Timely ds

variable {config : Config} {s : Service} {d : Deed} {ds : List Deed}

theorem launcher_perform (s : Service) (d : Deed) :
    (s.perform d).watch.launcher = d.launcher?.getD s.watch.launcher := by
  cases d with
  | change c =>
    obtain ⟨_, _, he⟩ := s.change_shape c
    rw [perform, he]
    rfl
  | reenable =>
    rw [perform]
    split <;> rfl
  | send es dry =>
    rw [perform]
    cases hs : s.watch.startRound? es dry with
    | none => rfl
    | some x =>
      obtain ⟨w, key⟩ := x
      obtain ⟨_, _, _, _, -, -, -, -, rfl⟩ := Watch.startRound_shape hs
      rfl
  | land key =>
    rw [perform]
    cases hs : (s.watch.round? key).bind (s.watch.land? key) with
    | none => rfl
    | some w =>
      obtain ⟨_, -, hl⟩ := Option.bind_eq_some_iff.mp hs
      obtain ⟨_, _, _, _, _, _, -, -, rfl⟩ := Watch.land_shape hl
      rfl
  | loop =>
    rw [perform]
    cases hs : s.watch.loopStep? with
    | none => rfl
    | some w =>
      cases Watch.loopStep_cases hs with
      | ended | failed => rfl
      | begun _ _ _ hc =>
        obtain ⟨_, _, _, _, -, -, -, -, rfl⟩ := Watch.startRound_shape hc
        rfl
  | startLoop =>
    rw [perform, startLoop]
    split <;> rfl
  | stopLoop =>
    obtain ⟨_, -, he⟩ := s.stopLoop_shape
    rw [perform, he]
    rfl
  | start t =>
    obtain ⟨_, he⟩ := s.startSession_shape t
    rw [perform, he]
    rfl
  | go t =>
    rw [perform]
    cases hs : (s.watch.run? t).bind s.watch.runStep? with
    | none => rfl
    | some w =>
      obtain ⟨_, -, hr⟩ := Option.bind_eq_some_iff.mp hs
      obtain ⟨_, _, _, -, -, rfl⟩ := Watch.runStep_shape hr
      rfl
  | drop | ask | pass | around => rfl

theorem run_append (s : Service) (ds ds' : List Deed) : s.run (ds ++ ds') = (s.run ds).run ds' := List.foldl_append

theorem timely_append {ds' : List Deed} (h : s.Timely ds) (h' : (s.run ds).Timely ds') : s.Timely (ds ++ ds') := by
  induction ds generalizing s with
  | nil => exact h'
  | cons d ds ih => exact ⟨h.1, ih h.2 h'⟩

/-! Calls -/

/-- Something happens to a service in time, while its launcher stays the same. -/
def Does (s t : Service) : Prop := ∃ d : Deed, d.launcher? = none ∧ d.Timely s ∧ s.perform d = t

theorem does_flow {w : Watch} {done : Watch → Bool} (h : s.Regular config) (hf : Watch.Flow done s.watch w) :
    Does s { s with watch := w } := by
  cases hf with
  | step hs =>
    rcases Watch.step_cases hs with ⟨key, r, hr, hl⟩ | hl | ⟨r, hr, hs⟩
    · refine ⟨.land key, rfl, trivial, ?_⟩
      rw [perform, h.distinct.round?_of_mem hr, Option.bind_some, hl]
      rfl
    · refine ⟨.loop, rfl, trivial, ?_⟩
      rw [perform, hl]
      rfl
    · refine ⟨.go r.target, rfl, trivial, ?_⟩
      rw [perform, Stage.run?_of_mem h.distinct.targets hr, Option.bind_some, hs]
      rfl
  | pass hs _ hle hd => exact ⟨.pass _, rfl, ⟨hs, hle, hd⟩, rfl⟩

theorem covers_does : Covers config Does where
  change s c := ⟨.change c, rfl, trivial, rfl⟩
  reenable {s id r e events} h := by
    refine ⟨.reenable id, rfl, trivial, ?_⟩
    simp only [perform, h]
  send {s es dry w key} h hs := by
    refine ⟨.send es dry, rfl, hs, ?_⟩
    rw [perform, h]
    rfl
  drop {s key} h := ⟨.drop key, rfl, h, rfl⟩
  flow := does_flow
  stopLoop s := ⟨.stopLoop, rfl, trivial, rfl⟩
  ask s target := ⟨.ask target, rfl, trivial, rfl⟩

theorem exists_deeds_of_does {t : Service} (h : Relation.ReflTransGen Does s t) :
    ∃ ds : List Deed, (∀ d ∈ ds, d.launcher? = none) ∧ s.Timely ds ∧ s.run ds = t := by
  induction h with
  | refl => exact ⟨[], by simp, trivial, rfl⟩
  | tail _ hd ih =>
    obtain ⟨ds, hown, ht, rfl⟩ := ih
    obtain ⟨d, hd, hnow, rfl⟩ := hd
    refine ⟨ds ++ [d], ?_, timely_append ht ⟨hnow, trivial⟩, run_append s ds [d]⟩
    exact List.forall_mem_append.mpr ⟨hown, by simpa using hd⟩

theorem does_after (h : s.Regular config) (c : Call) : Relation.ReflTransGen Does s (s.after c) :=
  covers_does.after (fun _ => ⟨.startLoop, rfl, trivial, rfl⟩) (fun _ target => ⟨.start target, rfl, trivial, rfl⟩) h c

/-- Calls one after another consist of things that happen in time. -/
theorem exists_deeds (h : Arises config s) (cs : List Call) :
    ∃ ds : List Deed, (∀ d ∈ ds, d.launcher? = none) ∧ s.Timely ds ∧ s.run ds = cs.foldl after s := by
  refine exists_deeds_of_does ?_
  induction cs generalizing s with
  | nil => exact .refl
  | cons c cs ih => exact (does_after h.regular c).trans (ih (h.after c))

end Service
end ProxyWatch
