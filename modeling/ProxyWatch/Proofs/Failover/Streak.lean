import Mathlib.Data.List.Induction
import ProxyWatch.Failover
import ProxyWatch.Proofs.Registry.Lookup

/-! Streaks of failed outcomes. The failures that a record counts are those of its endpoint's streak, whatever
happens to other endpoints, and an endpoint is taken out of use exactly when its streak reaches the limit. -/
namespace ProxyWatch

/-- What bears on the health of an endpoint. -/
inductive FailoverAct
  | outcome (id : String) (o : ProbeOutcome)
  | reenable (id : String)
  | setEnabled (id : String) (enabled : Bool)

namespace FailoverAct

/-- Whom the act is about. -/
def target : FailoverAct → String
  | outcome id _ => id
  | reenable id => id
  | setEnabled id _ => id

/-- What the act makes of a record. -/
def effect (limit : Nat) (e : Endpoint) : FailoverAct → Endpoint
  | outcome _ o => e.update (e.nextUpdate o limit)
  | reenable _ => e.update e.reenableUpdate
  | setEnabled _ enabled => { e with enabled }

/-- The act lengthens the streak of an endpoint. -/
def Fails (id : String) : FailoverAct → Prop
  | outcome id' o => id' = id ∧ o.level = .failed
  | _ => False

/-- The act ends the streak of an endpoint. -/
def Clears (id : String) : FailoverAct → Prop
  | outcome id' o => id' = id ∧ o.level ≠ .failed
  | reenable id' => id' = id
  | setEnabled .. => False

instance (id : String) : DecidablePred (Fails id) := fun a => by
  cases a <;> unfold Fails <;> infer_instance

instance (id : String) : DecidablePred (Clears id) := fun a => by
  cases a <;> unfold Clears <;> infer_instance

end FailoverAct

/-- The failed outcomes of an endpoint since its streak was last ended. -/
def streak (id : String) (acts : List FailoverAct) : Nat :=
  (acts.reverse.takeWhile fun a => ¬ a.Clears id).countP (·.Fails id)

namespace Failover

/-- An act on a registry. What can't be done changes nothing. -/
def act (limit : Nat) (r : Registry) : FailoverAct → Registry
  | .outcome id o =>
    match apply limit r id o with
    | .ok (r, _) => r
    | .error _ => r
  | .reenable id =>
    match reenable r id with
    | .ok (r, _) => r
    | .error _ => r
  | .setEnabled id enabled =>
    match r.setEnabled id enabled with
    | .ok (r, _) => r
    | .error _ => r

def run (limit : Nat) (r : Registry) (acts : List FailoverAct) : Registry := acts.foldl (act limit) r

end Failover

/-- What nothing that bears on its health changes in an endpoint. -/
def Endpoint.fixed (e : Endpoint) : String × String × Option String × Nat :=
  (e.id, e.url, e.name, e.priority)

/-- The effect that an outcome has on a record. -/
def Endpoint.applied (e : Endpoint) (limit : Nat) (o : ProbeOutcome) : Applied where
  endpoint := e.update (e.nextUpdate o limit)
  previous := e.status
  autoDisabled := (e.nextUpdate o limit).enabled = some false

section
variable {limit : Nat} {r : Registry} {e : Endpoint} {a : FailoverAct} {acts : List FailoverAct}
  {id : String} {o : ProbeOutcome}

@[simp] theorem Endpoint.fixed_update {u : HealthUpdate} : (e.update u).fixed = e.fixed := rfl

@[simp] theorem FailoverAct.fixed_effect : (a.effect limit e).fixed = e.fixed := by
  cases a <;> rfl

@[simp] theorem FailoverAct.id_effect : (a.effect limit e).id = e.id := by
  cases a <;> rfl

namespace Failover

theorem apply_of_find? (h : r.find? id = some e) :
    apply limit r id o = .ok (r.put (e.applied limit o).endpoint, e.applied limit o) := by
  simp only [apply, Registry.get_of_find? h, Registry.applyHealth, Registry.modify_of_find? h]
  rfl

theorem apply_of_absent (h : r.find? id = none) : apply limit r id o = .error (.notFound id) := by
  simp only [apply, Registry.get_of_absent h]
  rfl

theorem reenable_of_find? (h : r.find? id = some e) :
    ∃ events, reenable r id = .ok (r.put (e.update e.reenableUpdate), e.update e.reenableUpdate, events) := by
  simp only [reenable, Registry.get_of_find? h, Registry.applyHealth, Registry.modify_of_find? h]
  exact ⟨_, rfl⟩

theorem reenable_of_absent (h : r.find? id = none) : reenable r id = .error (.notFound id) := by
  simp only [reenable, Registry.get_of_absent h]
  rfl

theorem act_of_find? (h : r.find? a.target = some e) : act limit r a = r.put (a.effect limit e) := by
  cases a with
  | outcome id o =>
    simp only [act, apply_of_find? (show r.find? id = some e from h)]
    rfl
  | reenable id =>
    obtain ⟨events, hr⟩ := reenable_of_find? (show r.find? id = some e from h)
    simp only [act, hr]
    rfl
  | setEnabled id enabled =>
    simp only [act, Registry.setEnabled, Registry.modify_of_find? (show r.find? id = some e from h)]
    rfl

theorem act_of_absent (h : r.find? a.target = none) : act limit r a = r := by
  cases a with
  | outcome id o => simp only [act, apply_of_absent (show r.find? id = none from h)]
  | reenable id => simp only [act, reenable_of_absent (show r.find? id = none from h)]
  | setEnabled id enabled =>
    simp only [act, Registry.setEnabled, Registry.modify_of_absent (show r.find? id = none from h)]

/-- An act changes the record that it is about and no other. -/
theorem find?_act : (act limit r a).find? id =
    if a.target = id then (r.find? id).map (a.effect limit) else r.find? id := by
  cases h : r.find? a.target with
  | none =>
    rw [act_of_absent h]
    split
    · rename_i ht
      rw [← ht, h]
      rfl
    · rfl
  | some e =>
    have hi : (a.effect limit e).id = a.target := by
      rw [FailoverAct.id_effect, Registry.id_of_find? h]
    rw [act_of_find? h, Registry.find?_put, hi]
    split
    · rename_i ht
      rw [← ht, h]
      rfl
    · rfl

theorem run_concat : run limit r (acts ++ [a]) = act limit (run limit r acts) a := by
  simp [run]

/-- No act touches the fixed part of any endpoint. -/
theorem fixed_act :
    ((act limit r a).find? id).map Endpoint.fixed = (r.find? id).map Endpoint.fixed := by
  rw [find?_act]
  split
  · cases r.find? id <;> simp
  · rfl

end Failover

/-! Streaks -/

theorem FailoverAct.Fails.target_eq (h : a.Fails id) : a.target = id := by
  cases a with
  | outcome => exact h.1
  | reenable | setEnabled => exact h.elim

theorem FailoverAct.Clears.target_eq (h : a.Clears id) : a.target = id := by
  cases a with
  | outcome => exact h.1
  | reenable => exact h
  | setEnabled => exact h.elim

theorem FailoverAct.Fails.not_clears (h : a.Fails id) : ¬ a.Clears id := by
  cases a with
  | outcome => exact fun hc => hc.2 h.2
  | reenable | setEnabled => exact h.elim

theorem streak_concat : streak id (acts ++ [a]) =
    if a.Clears id then 0 else streak id acts + if a.Fails id then 1 else 0 := by
  by_cases hc : a.Clears id
  · simp [streak, hc]
  · by_cases hf : a.Fails id <;> simp [streak, hc, hf]

/-- An act on an endpoint counts its failures. -/
theorem FailoverAct.failures_effect (h : a.target = id) : (a.effect limit e).failures =
    if a.Clears id then 0 else if a.Fails id then min maxU32 (e.failures + 1) else e.failures := by
  cases a with
  | outcome id' o =>
    obtain rfl : id' = id := h
    cases hl : o.level <;>
      simp [effect, Endpoint.update, Endpoint.nextUpdate, Clears, Fails, hl, Nat.min_comm]
  | reenable id' =>
    obtain rfl : id' = id := h
    simp [effect, Endpoint.update, Endpoint.reenableUpdate, Clears]
  | setEnabled id' enabled => simp [effect, Clears, Fails]

/-- A record that counts its streak goes on counting it. -/
theorem FailoverAct.count_effect (ht : a.target = id) (hn : e.failures = min maxU32 (streak id acts)) :
    (a.effect limit e).failures = min maxU32 (streak id (acts ++ [a])) := by
  rw [failures_effect ht, streak_concat, hn]
  split
  · rfl
  · split <;> omega

/-- A record whose count begins at zero counts its streak, up to the greatest count. -/
theorem Failover.failures_run (limit : Nat) (acts : List FailoverAct) (he : r.find? id = some e)
    (hf : e.failures = 0) :
    ∃ x, (run limit r acts).find? id = some x ∧ x.failures = min maxU32 (streak id acts) := by
  induction acts using List.reverseRecOn with
  | nil => exact ⟨e, he, by simp [hf, streak]⟩
  | append_singleton acts a ih =>
    obtain ⟨x, hx, hn⟩ := ih
    rw [run_concat, find?_act, streak_concat, hx]
    by_cases ht : a.target = id
    · rw [← streak_concat]
      exact ⟨a.effect limit x, by simp [ht], FailoverAct.count_effect ht hn⟩
    · have hc : ¬ a.Clears id := fun hc => ht hc.target_eq
      have hs : ¬ a.Fails id := fun hs => ht hs.target_eq
      exact ⟨x, by simp [ht], by simp [hc, hs, hn]⟩

/-! What an outcome does -/

/-- The report that an endpoint was taken out of use. -/
def Event.isAutoDisabled : Event → Bool
  | .autoDisabled .. => true
  | _ => false

/-- The effect of an outcome on the record `x` of an endpoint whose streak it brings to `n`. -/
structure OutcomeEffect (limit n : Nat) (id : String) (x : Endpoint) (o : ProbeOutcome) (a : Applied) :
    Prop where
  failures_eq : a.endpoint.failures = min maxU32 n
  autoDisabled_iff : a.autoDisabled = true ↔ o.level = .failed ∧ x.enabled = true ∧ limit ≤ n
  enabled_eq : a.endpoint.enabled = if a.autoDisabled then false else x.enabled
  reports : a.events.filter Event.isAutoDisabled =
    if a.autoDisabled then [.autoDisabled id (min maxU32 n)] else []

theorem Endpoint.nextUpdate_enabled : (e.nextUpdate o limit).enabled =
    if o.level = .failed ∧ e.enabled = true ∧ limit ≤ min (e.failures + 1) maxU32 then some false
    else none := by
  cases hl : o.level <;> simp [nextUpdate, hl]

end

/-- What holds of an endpoint after some acts, whatever comes next. -/
structure Tracked (limit : Nat) (r : Registry) (id : String) (acts : List FailoverAct) : Prop where
  current : ∃ x, (Failover.run limit r acts).find? id = some x ∧
    x.failures = min maxU32 (streak id acts) ∧
    ∀ o, ∃ a, Failover.apply limit (Failover.run limit r acts) id o =
        .ok (Failover.run limit r (acts ++ [.outcome id o]), a) ∧
      (Failover.run limit r (acts ++ [.outcome id o])).find? id = some a.endpoint ∧
      OutcomeEffect limit (streak id (acts ++ [.outcome id o])) id x o a
  /-- An act touches no other record, and nothing but health and use in its own. -/
  frame : ∀ a id', a.target ≠ id' →
    (Failover.run limit r (acts ++ [a])).find? id' = (Failover.run limit r acts).find? id'
  fixed : ∀ a id', ((Failover.run limit r (acts ++ [a])).find? id').map Endpoint.fixed =
    ((Failover.run limit r acts).find? id').map Endpoint.fixed

section
variable {limit : Nat} {r : Registry} {x : Endpoint} {acts : List FailoverAct} {id : String}
  {o : ProbeOutcome}

theorem OutcomeEffect.of_count (hl : limit ≤ maxU32) (hi : x.id = id)
    (hn : x.failures = min maxU32 (streak id acts)) :
    OutcomeEffect limit (streak id (acts ++ [.outcome id o])) id x o (x.applied limit o) := by
  have hf : (x.applied limit o).endpoint.failures =
      min maxU32 (streak id (acts ++ [.outcome id o])) :=
    FailoverAct.count_effect (a := .outcome id o) rfl hn
  have hd : (x.applied limit o).autoDisabled = true ↔
      o.level = .failed ∧ x.enabled = true ∧ limit ≤ streak id (acts ++ [.outcome id o]) := by
    simp only [Endpoint.applied, Endpoint.nextUpdate_enabled, decide_eq_true_eq]
    split
    · rename_i h
      have hs : streak id (acts ++ [.outcome id o]) = streak id acts + 1 := by
        simp [streak_concat, FailoverAct.Clears, FailoverAct.Fails, h.1]
      have := h.2.2
      simp [h.1, h.2.1, hs]
      omega
    · rename_i h
      simp only [reduceCtorEq, false_iff]
      rintro ⟨ho, hx, hs⟩
      rw [streak_concat] at hs
      simp [FailoverAct.Clears, FailoverAct.Fails, ho] at hs
      exact h ⟨ho, hx, by omega⟩
  constructor
  case failures_eq => exact hf
  case autoDisabled_iff => exact hd
  case enabled_eq =>
    simp only [Endpoint.applied, Endpoint.update, Endpoint.nextUpdate_enabled]
    split <;> simp
  case reports =>
    have hid : (x.applied limit o).endpoint.id = id := hi
    simp only [Applied.events, List.filter_append, hf, hid]
    split <;> split <;> rfl

theorem Failover.apply_effect (hl : limit ≤ maxU32) (hx : r.find? id = some x)
    (hn : x.failures = min maxU32 (streak id acts)) :
    ∃ a, apply limit r id o = .ok (act limit r (.outcome id o), a) ∧
      (act limit r (.outcome id o)).find? id = some a.endpoint ∧
      OutcomeEffect limit (streak id (acts ++ [.outcome id o])) id x o a := by
  refine ⟨x.applied limit o, ?_, ?_, .of_count hl (Registry.id_of_find? hx) hn⟩
  · simp only [act, apply_of_find? hx]
  · rw [find?_act, hx]
    exact if_pos rfl

/-- Whatever acts have followed the insertion of an endpoint, on whichever endpoints. -/
theorem Failover.run_tracked (configured : Nat) (r : Registry) (id : String) (e : Endpoint)
    (acts : List FailoverAct) (hm : configured ≤ maxU32) (he : r.find? id = some e)
    (hf : e.failures = 0) : Tracked (limitOf configured) r id acts := by
  have hl : limitOf configured ≤ maxU32 := Nat.max_le.mpr ⟨hm, by decide⟩
  obtain ⟨x, hx, hn⟩ := failures_run (limitOf configured) acts he hf
  constructor
  case current =>
    refine ⟨x, hx, hn, fun o => ?_⟩
    rw [run_concat]
    exact apply_effect hl hx hn
  case frame =>
    intro a id' ht
    rw [run_concat, find?_act, if_neg ht]
  case fixed =>
    intro a id'
    rw [run_concat, fixed_act]

end

/-- An endpoint that has just been stored fails, while another one is taken out of use. -/
theorem Failover.run_tracked_put :
    let e : Endpoint := { id := "a", url := "http://a:1", priority := 0 }
    2 ≤ maxU32 ∧ (Registry.empty.put e).find? "a" = some e ∧ e.failures = 0 ∧
      Tracked (limitOf 2) (Registry.empty.put e) "a"
        [.outcome "a" { level := .failed, responseMs := 0, checkedAt := default }, .setEnabled "b" false] :=
  ⟨by decide, Registry.find?_put_self, rfl, run_tracked 2 _ "a" _ _ (by decide) Registry.find?_put_self rfl⟩

end ProxyWatch
