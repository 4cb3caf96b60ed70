import Mathlib.Logic.Relation
import ProxyWatch.Proofs.Failover.Streak

/-! Calls that several callers make at once. A call that computes new health from the stored one holds the lock of
its endpoint meanwhile; a call that only sets something goes through in one step, without the lock. -/
namespace ProxyWatch

/-- The endpoint with another flag and another priority, as far as they are given. -/
def Endpoint.set (e : Endpoint) (enabled : Option Bool) (priority : Option Nat) : Endpoint :=
  { e with enabled := enabled.getD e.enabled, priority := priority.getD e.priority }

/-- What an outcome does to a record hangs on its flag, not on its priority. -/
theorem Endpoint.nextUpdate_set {e : Endpoint} {b : Option Bool} {p : Option Nat} {o : ProbeOutcome}
    {limit : Nat} (h : (e.set b p).enabled = e.enabled) :
    (e.set b p).nextUpdate o limit = e.nextUpdate o limit := by
  unfold nextUpdate
  rw [h]
  rfl

namespace Failover

/-- A call that bears on an endpoint. -/
inductive Call
  | act (a : FailoverAct)
  | setPriority (id : String) (priority : Nat)

namespace Call

def target : Call → String
  | act a => a.target
  | setPriority id _ => id

/-- The call takes the lock of its endpoint. -/
def locks : Call → Bool
  | act (.outcome ..) => true
  | act (.reenable _) => true
  | _ => false

/-- What a call that takes the lock makes of the record that it has read. -/
def update? (limit : Nat) (e : Endpoint) : Call → Option HealthUpdate
  | act (.outcome _ o) => some (e.nextUpdate o limit)
  | act (.reenable _) => some e.reenableUpdate
  | _ => none

/-- What the call reports, given the record that it has read and the one that it has stored. -/
def reports (limit : Nat) (current stored : Endpoint) : Call → List Event
  | act (.outcome _ o) =>
    ({ endpoint := stored, previous := current.status
       autoDisabled := (current.nextUpdate o limit).enabled = some false } : Applied).events
  | act (.reenable id) =>
    if current.status = .unknown then []
    else [.healthChanged id current.status .unknown 0 stored.averageMs]
  | _ => []

/-- What the call makes of a record when nothing comes between. -/
def effect (limit : Nat) (e : Endpoint) : Call → Endpoint
  | act a => a.effect limit e
  | setPriority _ priority => { e with priority }

end Call

/-- Makes a call when no other one is going on. What can't be done changes nothing. -/
def serve (limit : Nat) (x : Registry × List Event) : Call → Registry × List Event
  | .act (.outcome id o) =>
    match apply limit x.1 id o with
    | .ok (r, a) => (r, x.2 ++ a.events)
    | .error _ => x
  | .act (.reenable id) =>
    match reenable x.1 id with
    | .ok (r, _, events) => (r, x.2 ++ events)
    | .error _ => x
  | .act (.setEnabled id enabled) =>
    match x.1.setEnabled id enabled with
    | .ok (r, _) => (r, x.2)
    | .error _ => x
  | .setPriority id priority =>
    match x.1.setPriority id priority with
    | .ok (r, _) => (r, x.2)
    | .error _ => x

/-- How far a call has come. -/
inductive Stage
  | waiting
  | locked
  /-- It has read a record. -/
  | read (current : Endpoint)
  /-- It has stored a record instead of the one that it has read, and is to report that. -/
  | stored (current after : Endpoint)
  /-- It is to give the lock back. -/
  | told
  | done

namespace Stage

/-- The call has the lock. -/
def Holds : Stage → Prop
  | locked | read _ | stored .. | told => True
  | _ => False

/-- The call has had its effect. -/
def Effective : Stage → Prop
  | stored .. | told | done => True
  | _ => False

end Stage

/-- Callers at work: the registry, what has been reported, and how far each call has come. -/
structure Scene (calls : List Call) where
  registry : Registry
  events : List Event := []
  stage : Fin calls.length → Stage

namespace Scene

variable {calls : List Call}

/-- No call has begun. -/
def start (r : Registry) (calls : List Call) : Scene calls :=
  { registry := r, stage := fun _ => .waiting }

def set (s : Scene calls) (i : Fin calls.length) (x : Stage) : Scene calls :=
  { s with stage := Function.update s.stage i x }

/-- Every call has returned. -/
def Complete (s : Scene calls) : Prop := ∀ i, s.stage i = .done

end Scene

/-- One call goes on by one step. -/
inductive Step (limit : Nat) {calls : List Call} (s : Scene calls) : Scene calls → Prop
  | lock {i} (hw : s.stage i = .waiting) (hl : (calls.get i).locks = true)
      (hf : ∀ j, (calls.get j).target = (calls.get i).target → ¬ (s.stage j).Holds) :
      Step limit s (s.set i .locked)
  | read {i e} (hs : s.stage i = .locked) (hr : s.registry.get (calls.get i).target = .ok e) :
      Step limit s (s.set i (.read e))
  /-- The endpoint isn't stored: there is nothing to be done. -/
  | miss {i err} (hs : s.stage i = .locked) (hr : s.registry.get (calls.get i).target = .error err) :
      Step limit s (s.set i .told)
  | store {i e u r after} (hs : s.stage i = .read e) (hu : (calls.get i).update? limit e = some u)
      (hr : s.registry.applyHealth (calls.get i).target u = .ok (r, after)) :
      Step limit s { s.set i (.stored e after) with registry := r }
  /-- The endpoint has gone since it was read. -/
  | lose {i e u err} (hs : s.stage i = .read e) (hu : (calls.get i).update? limit e = some u)
      (hr : s.registry.applyHealth (calls.get i).target u = .error err) :
      Step limit s (s.set i .told)
  | tell {i e after} (hs : s.stage i = .stored e after) :
      Step limit s
        { s.set i .told with events := s.events ++ (calls.get i).reports limit e after }
  | unlock {i} (hs : s.stage i = .told) : Step limit s (s.set i .done)
  /-- A call that takes no lock. -/
  | pass {i} (hw : s.stage i = .waiting) (hl : (calls.get i).locks = false) :
      Step limit s
        { s.set i .done with registry := (serve limit (s.registry, []) (calls.get i)).1 }

/-- The steps of several calls, in any order that the locks allow. -/
abbrev Steps (limit : Nat) {calls : List Call} : Scene calls → Scene calls → Prop :=
  Relation.ReflTransGen (Step limit)

/-! One call after another -/

section
variable {limit : Nat} {x : Registry × List Event} {e stored : Endpoint} {c : Call} {id : String}

@[simp] theorem Call.fixed_id_effect : (c.effect limit e).id = e.id := by
  cases c with
  | act a => exact FailoverAct.id_effect
  | setPriority => rfl

theorem serve_of_absent (h : x.1.find? c.target = none) : serve limit x c = x := by
  cases c with
  | act a =>
    cases a with
    | outcome id o => simp only [serve, apply_of_absent (show x.1.find? id = none from h)]
    | reenable id => simp only [serve, reenable_of_absent (show x.1.find? id = none from h)]
    | setEnabled id enabled =>
      simp only [serve, Registry.setEnabled, Registry.modify_of_absent (show x.1.find? id = none from h)]
  | setPriority id priority =>
    simp only [serve, Registry.setPriority, Registry.modify_of_absent (show x.1.find? id = none from h)]

theorem serve_of_find? (h : x.1.find? c.target = some e) : serve limit x c =
    (x.1.put (c.effect limit e), x.2 ++ c.reports limit e (c.effect limit e)) := by
  cases c with
  | act a =>
    cases a with
    | outcome id o =>
      simp only [serve, apply_of_find? (show x.1.find? id = some e from h)]
      rfl
    | reenable id =>
      have h : x.1.find? id = some e := h
      simp only [serve, reenable, Registry.get_of_find? h, Registry.applyHealth, Registry.modify_of_find? h]
      rfl
    | setEnabled id enabled =>
      have h : x.1.find? id = some e := h
      simp only [serve, Registry.setEnabled, Registry.modify_of_find? h]
      simp [Call.reports, Call.effect, FailoverAct.effect]
  | setPriority id priority =>
    have h : x.1.find? id = some e := h
    simp only [serve, Registry.setPriority, Registry.modify_of_find? h]
    simp [Call.reports, Call.effect]

/-- A call reports nothing about any endpoint but its own. -/
theorem Call.subject_of_mem (limit : Nat) (e : Endpoint) (hi : stored.id = c.target) :
    ∀ ev ∈ c.reports limit e stored, ev.subject = c.target := by
  intro ev hm
  cases c with
  | act a =>
    cases a with
    | outcome id o =>
      have hi : stored.id = id := hi
      simp only [reports, Applied.events, List.mem_append] at hm
      rcases hm with hm | hm <;> split at hm <;> simp_all [Event.subject, target, FailoverAct.target]
    | reenable id =>
      simp only [reports] at hm
      split at hm <;> simp_all [Event.subject, target, FailoverAct.target]
    | setEnabled => simp [reports] at hm
  | setPriority => simp [reports] at hm

theorem Call.filter_reports (hi : stored.id = c.target) (id : String) :
    (c.reports limit e stored).filter (·.subject = id) =
      if c.target = id then c.reports limit e stored else [] := by
  have hs := Call.subject_of_mem limit e hi
  split
  · rename_i ht
    exact List.filter_eq_self.mpr fun ev hm => by simp [hs ev hm, ht]
  · rename_i ht
    exact List.filter_eq_nil_iff.mpr fun ev hm => by simp [hs ev hm, ht]

/-- The record of one endpoint, and what has been reported about it. -/
def project (id : String) (x : Registry × List Event) : Option Endpoint × List Event :=
  (x.1.find? id, x.2.filter (·.subject = id))

/-- What a call makes of the record of its endpoint and of the reports about it. -/
def serveOne (limit : Nat) (x : Option Endpoint × List Event) (c : Call) :
    Option Endpoint × List Event :=
  match x.1 with
  | some e => (some (c.effect limit e), x.2 ++ c.reports limit e (c.effect limit e))
  | none => x

/-- What some calls make of it, one after another. -/
def replay (limit : Nat) (x : Option Endpoint × List Event) (cs : List Call) :
    Option Endpoint × List Event := cs.foldl (serveOne limit) x

theorem project_serve (limit : Nat) (x : Registry × List Event) (c : Call) (id : String) :
    project id (serve limit x c) =
      if c.target = id then serveOne limit (project id x) c else project id x := by
  cases h : x.1.find? c.target with
  | none =>
    rw [serve_of_absent h]
    split
    · rename_i ht
      simp only [serveOne, project, ← ht, h]
    · rfl
  | some e =>
    have hi : (c.effect limit e).id = c.target := by
      rw [Call.fixed_id_effect, Registry.id_of_find? h]
    rw [serve_of_find? h]
    simp only [project, serveOne, List.filter_append, Call.filter_reports hi, Registry.find?_put, hi]
    split
    · rename_i ht
      simp only [← ht, h]
    · simp

/-- What is found of an endpoint after some calls depends on its own calls only. -/
theorem project_foldl_serve (limit : Nat) (x : Registry × List Event) (id : String) (cs : List Call) :
    project id (cs.foldl (serve limit) x) =
      replay limit (project id x) (cs.filter (·.target = id)) := by
  induction cs generalizing x with
  | nil => rfl
  | cons c cs ih =>
    rw [List.foldl_cons, ih, project_serve]
    by_cases ht : c.target = id <;> simp [ht, replay]

theorem replay_append {x : Option Endpoint × List Event} {cs cs' : List Call} :
    replay limit x (cs ++ cs') = replay limit (replay limit x cs) cs' := List.foldl_append

/-! Calls that take no lock -/

/-- Calls without the lock only set the flag and the priority, whatever they find. -/
theorem exists_set (limit : Nat) (cs : List Call) (h : ∀ c ∈ cs, c.locks = false) :
    ∃ b p, ∀ e evs, replay limit (some e, evs) cs = (some (e.set b p), evs) := by
  induction cs using List.reverseRecOn with
  | nil => exact ⟨none, none, fun e evs => rfl⟩
  | append_singleton cs c ih =>
    obtain ⟨b, p, hs⟩ := ih fun d hd => h d (by simp [hd])
    have hc : c.locks = false := h c (by simp)
    cases c with
    | act a =>
      cases a with
      | outcome | reenable => simp [Call.locks] at hc
      | setEnabled id enabled =>
        refine ⟨some enabled, p, fun e evs => ?_⟩
        rw [replay_append, hs]
        simp [replay, serveOne, Call.effect, FailoverAct.effect, Call.reports, Endpoint.set]
    | setPriority id priority =>
      refine ⟨b, some priority, fun e evs => ?_⟩
      rw [replay_append, hs]
      simp [replay, serveOne, Call.effect, Call.reports, Endpoint.set]

/-- A call stores an update that it has computed from `e`, while others have set something in between. Either that
is what it does when it comes after them, or what it does when it comes before. -/
theorem Call.late_or_early {u : HealthUpdate} (hu : c.update? limit e = some u) (b : Option Bool)
    (p : Option Nat) :
    (c.effect limit (e.set b p) = (e.set b p).update u ∧
      c.reports limit (e.set b p) ((e.set b p).update u) = c.reports limit e ((e.set b p).update u)) ∨
    ((c.effect limit e).set b p = (e.set b p).update u ∧
      c.reports limit e (c.effect limit e) = c.reports limit e ((e.set b p).update u)) := by
  cases c with
  | setPriority => simp [update?] at hu
  | act a =>
    cases a with
    | setEnabled => simp [update?] at hu
    | reenable id =>
      simp only [update?, Option.some.injEq] at hu
      subst hu
      exact .inl ⟨rfl, rfl⟩
    | outcome id o =>
      simp only [update?, Option.some.injEq] at hu
      subst hu
      by_cases he : (e.set b p).enabled = e.enabled
      · left
        simp only [effect, FailoverAct.effect, reports, Endpoint.nextUpdate_set he]
        trivial
      · right
        refine ⟨?_, rfl⟩
        have hd : (e.nextUpdate o limit).enabled = _ := Endpoint.nextUpdate_enabled
        -- The flag was set in between, so that it is cleared by both or by none.
        cases b with
        | none => exact (he rfl).elim
        | some v =>
          cases v with
          | false => split at hd <;> simp [effect, FailoverAct.effect, Endpoint.set, Endpoint.update, hd]
          | true =>
            have hf : e.enabled ≠ true := fun h => he h.symm
            rw [if_neg fun h => hf h.2.1] at hd
            simp [effect, FailoverAct.effect, Endpoint.set, Endpoint.update, hd]

end
end Failover
end ProxyWatch
