import Mathlib.Logic.Function.Basic
import ProxyWatch.Proofs.Registry.Durable
import ProxyWatch.Proofs.Text.Bytes
import ProxyWatch.Selection

/-! A registry is a finite map from ids to records. What it answers, and what it has become after any number of changes,
can be read off a function from ids to records that each change updates at one id. -/
namespace ProxyWatch

/-- What is known about the health of an endpoint. -/
def Endpoint.health (e : Endpoint) : HealthStatus × Nat × Option Timestamp × Option Nat :=
  (e.status, e.failures, e.lastChecked, e.averageMs)

/-- What a change makes of the record of its endpoint, if there is one. -/
def Change.effect : Change → Option Endpoint → Option Endpoint
  | upsert e, none => some e.resetHealth
  | upsert e, some old =>
    some { old with url := e.url, name := e.name, priority := e.priority, enabled := e.enabled }
  | delete _, _ => none
  | setEnabled _ enabled, old => old.map fun e => { e with enabled }
  | setPriority _ priority, old => old.map fun e => { e with priority }
  | health _ u, old => old.map (·.update u)

/-- Only an insertion leaves a record where there was none. -/
theorem Change.effect_eq_none_iff {c : Change} {old : Option Endpoint} (hd : ∀ id, c ≠ .delete id) :
    c.effect old = none ↔ old = none ∧ ∀ e, c ≠ .upsert e := by
  cases c with
  | delete id => exact absurd rfl (hd id)
  | upsert e => cases old <;> simp [effect]
  | setEnabled | setPriority | health => simp [effect]

/-- A map from ids to records. -/
abbrev Records := String → Option Endpoint

namespace Records

/-- The records of a list; of several with one id the last one counts. -/
def ofList (es : List Endpoint) : Records := fun id => es.reverse.find? (·.id == id)

def change (m : Records) (c : Change) : Records :=
  Function.update m c.endpoint (c.effect (m c.endpoint))

/-- The record at an id, which must be there. -/
def get (m : Records) (id : String) : Except RegistryError Endpoint := (m id).elim (.error (.notFound id)) .ok

/-- A deletion returns the record that was there, every other change the one that is there now. -/
def answer (m : Records) : Change → Except RegistryError Endpoint
  | .delete id => m.get id
  | c => (m.change c).get c.endpoint

variable {m : Records} {c : Change} {id : String} {err : RegistryError}

theorem change_self (m : Records) (c : Change) : (m.change c) c.endpoint = c.effect (m c.endpoint) :=
  Function.update_self ..

theorem change_of_ne (h : c.endpoint ≠ id) : (m.change c) id = m id := Function.update_of_ne (Ne.symm h) ..

theorem answer_of_ne_delete (h : ∀ id, c ≠ .delete id) : m.answer c = (m.change c).get c.endpoint := by
  cases c with
  | delete id => exact absurd rfl (h id)
  | upsert | setEnabled | setPriority | health => rfl

theorem get_eq_error_iff : m.get id = .error err ↔ err = .notFound id ∧ m id = none := by
  rw [get]
  cases m id with
  | none => simp [eq_comm]
  | some e => simp

theorem answer_eq_error_iff : m.answer c = .error err ↔
    err = .notFound c.endpoint ∧ m c.endpoint = none ∧ ∀ e, c ≠ .upsert e := by
  by_cases hd : ∀ id, c ≠ .delete id
  · rw [answer_of_ne_delete hd, get_eq_error_iff, change_self, Change.effect_eq_none_iff hd]
  · obtain ⟨id, rfl⟩ : ∃ id, c = .delete id := by simpa using hd
    exact get_eq_error_iff.trans (by simp [Change.endpoint])

end Records

namespace Registry

/-- The registry after a change. What can't be done changes nothing. -/
def changed (r : Registry) (c : Change) : Registry :=
  match r.change c with
  | .ok (r, _) => r
  | .error _ => r

/-- A registry holds the records of a map, and does with them what the map does. -/
structure Holds (r : Registry) (m : Records) : Prop where
  get : ∀ id, r.get id = m.get id
  /-- Listed is what is in the map, -/
  mem_list : ∀ e, e ∈ r.list false ↔ m e.id = some e
  /-- by the bytes of the ids, each id once, -/
  ascending : (r.list false).Pairwise fun a b => utf8 a.id < utf8 b.id
  snapshot : Selection.snapshot (r.list false) = r.list false
  enabled : r.list true = (r.list false).filter (·.enabled)
  answer : ∀ c, (r.change c).map Prod.snd = m.answer c
  /-- A change is refused only if its endpoint is absent, -/
  refused : ∀ c err, r.change c = .error err ↔
    err = .notFound c.endpoint ∧ m c.endpoint = none ∧ ∀ e, c ≠ .upsert e
  /-- and then it changes nothing. -/
  unchanged : ∀ c err, r.change c = .error err → r.changed c = r
  others : ∀ c id, c.endpoint ≠ id → (r.changed c).get id = r.get id
  /-- What a change returns is stored, -/
  stored : ∀ c r' e, r.change c = .ok (r', e) → (∀ id, c ≠ .delete id) → r'.get c.endpoint = .ok e
  /-- or was, and is stored no more. -/
  removed : ∀ id r' e, r.change (.delete id) = .ok (r', e) → r.get id = .ok e ∧ r'.get id = .error (.notFound id)
  inserted : ∀ e, m e.id = none → (r.changed (.upsert e)).get e.id =
    .ok { e with status := .unknown, failures := 0, lastChecked := none, averageMs := none }
  replaced : ∀ e old, m e.id = some old → (r.changed (.upsert e)).get e.id =
    .ok { e with status := old.status, failures := old.failures, lastChecked := old.lastChecked,
                 averageMs := old.averageMs }
  /-- The health of an endpoint stays until it is updated, or the endpoint removed. -/
  health : ∀ (id : String) (e : Endpoint) (cs : List Change), m id = some e → (∀ c ∈ cs, c ≠ .delete id ∧ ∀ u, c ≠ .health id u) →
    ∃ e', (cs.foldl changed r).get id = .ok e' ∧ e'.health = e.health

variable {r r' : Registry} {c : Change} {id : String} {e old : Endpoint} {f : Endpoint → Endpoint}
  {es : List Endpoint} {cs : List Change} {err : RegistryError}

theorem changed_of_ok {x : Registry × Endpoint} (h : r.change c = .ok x) : r.changed c = x.1 := by
  rw [changed, h]

theorem changed_of_error (h : r.change c = .error err) : r.changed c = r := by
  rw [changed, h]

theorem get_eq (r : Registry) (id : String) : r.get id = Records.get r.find? id := by
  rw [Records.get]
  cases h : r.find? id with
  | none => exact get_of_absent h
  | some e => exact get_of_find? h

/-! One change -/

theorem find?_of_modify (hc : r.change c = r.modify id f) (hf : ∀ e, (f e).id = e.id) (id' : String) :
    (r.changed c).find? id' = if id = id' then (r.find? id').map f else r.find? id' := by
  cases hr : r.find? id with
  | none =>
    rw [changed_of_error (hc.trans (modify_of_absent hr))]
    split
    · rename_i hi
      rw [← hi, hr]
      rfl
    · rfl
  | some e =>
    have hsame : { f e with id := e.id } = f e := by rw [← hf e]
    rw [changed_of_ok (hc.trans (modify_of_find? hr)), hsame, find?_put, hf, id_of_find? hr]
    split
    · rename_i hi
      rw [← hi, hr]
      rfl
    · rfl

theorem snd_of_modify (hc : r.change c = r.modify id f) (hf : ∀ e, (f e).id = e.id) :
    (r.change c).map Prod.snd = ((r.find? id).map f).elim (.error (.notFound id)) .ok := by
  cases hr : r.find? id with
  | none =>
    rw [hc, modify_of_absent hr]
    rfl
  | some e =>
    have hsame : { f e with id := e.id } = f e := by rw [← hf e]
    rw [hc, modify_of_find? hr, hsame]
    rfl

theorem upsert_eq (r : Registry) (e : Endpoint) :
    some (r.upsert e).2 = (Change.upsert e).effect (r.find? e.id) := by
  cases h : r.find? e.id with
  | none => exact congrArg some (upsert_of_absent h)
  | some old => exact congrArg some (upsert_of_find? h)

/-- A change touches the record of its endpoint and no other. -/
theorem find?_changed (r : Registry) (c : Change) : (r.changed c).find? = Records.change r.find? c := by
  funext id
  have hgoal : Records.change r.find? c id = if c.endpoint = id then c.effect (r.find? id) else r.find? id := by
    split
    · rename_i hi
      rw [← hi, Records.change_self]
    · rename_i hi
      exact Records.change_of_ne hi
  rw [hgoal]
  cases c with
  | upsert e =>
    have hok : r.change (.upsert e) = .ok (r.upsert e) := rfl
    rw [changed_of_ok hok, find?_upsert]
    split
    · rename_i hi
      rw [upsert_eq, hi]
      exact (if_pos hi).symm
    · rename_i hi
      exact (if_neg hi).symm
  | delete id' =>
    cases hr : r.find? id' with
    | none =>
      rw [changed_of_error (c := .delete id') (delete_of_absent hr)]
      split
      · rename_i hi
        rw [← hi]
        exact hr
      · rfl
    | some e =>
      obtain ⟨r', hd, hnone, hother⟩ := delete_of_find? hr
      rw [changed_of_ok (c := .delete id') (x := (r', e)) hd]
      split
      · rename_i hi
        rw [← hi]
        exact hnone
      · rename_i hi
        exact hother id hi
  | setEnabled | setPriority | health =>
    refine find?_of_modify ?_ ?_ id
    · rfl
    · exact fun _ => rfl

/-- What a change returns. -/
theorem snd_change (r : Registry) (c : Change) : (r.change c).map Prod.snd = Records.answer r.find? c := by
  cases c with
  | upsert e =>
    have hself : Records.change r.find? (.upsert e) e.id = some (r.upsert e).2 :=
      (Records.change_self _ _).trans (upsert_eq r e).symm
    rw [Records.answer_of_ne_delete (by simp)]
    change Except.ok (r.upsert e).2 = (Records.change r.find? (.upsert e)).get e.id
    rw [Records.get, hself]
    rfl
  | delete id =>
    cases hr : r.find? id with
    | none =>
      have herror : r.change (.delete id) = _ := delete_of_absent hr
      rw [herror, Records.answer, Records.get, hr]
      rfl
    | some e =>
      obtain ⟨r', hd, -⟩ := delete_of_find? hr
      have hok : r.change (.delete id) = _ := hd
      rw [hok, Records.answer, Records.get, hr]
      rfl
  | setEnabled | setPriority | health =>
    rw [Records.answer_of_ne_delete (by simp), Records.get, Records.change_self]
    exact snd_of_modify rfl fun _ => rfl

theorem change_eq_error_iff : r.change c = .error err ↔
    err = .notFound c.endpoint ∧ r.find? c.endpoint = none ∧ ∀ e, c ≠ .upsert e := by
  rw [← Records.answer_eq_error_iff, ← snd_change]
  cases r.change c with
  | error | ok => simp [Except.map]

/-! Any number of changes -/

theorem find?_ofList (es : List Endpoint) : (ofList es).find? = Records.ofList es := by
  funext id
  have hempty : empty.find? id = none := rfl
  rw [ofList, find?_foldl_put, hempty, Option.or_none]
  rfl

theorem find?_run (r : Registry) (cs : List Change) : (cs.foldl changed r).find? = cs.foldl Records.change r.find? := by
  induction cs generalizing r with
  | nil => rfl
  | cons c cs ih => rw [List.foldl_cons, List.foldl_cons, ih, find?_changed]

/-- A change that is no health update takes the health of what it finds as it is. -/
theorem health_effect (h : c.effect (some old) = some e) (hu : ∀ u, c ≠ .health c.endpoint u) :
    e.health = old.health := by
  cases c with
  | upsert | setEnabled | setPriority =>
    cases h
    rfl
  | delete => cases h
  | health id u => exact absurd rfl (hu u)

theorem health_changed (h : r.find? id = some old) (hd : c ≠ .delete id) (hu : ∀ u, c ≠ .health id u) :
    ∃ e, (r.changed c).find? id = some e ∧ e.health = old.health := by
  by_cases hi : c.endpoint = id
  · subst hi
    have hsome : ∃ e, c.effect (some old) = some e := by
      cases c with
      | delete => exact absurd rfl hd
      | upsert | setEnabled | setPriority | health => exact ⟨_, rfl⟩
    obtain ⟨e, he⟩ := hsome
    refine ⟨e, ?_, health_effect he hu⟩
    rw [find?_changed, Records.change_self, h, he]
  · refine ⟨old, ?_, rfl⟩
    rw [find?_changed, Records.change_of_ne hi, h]

theorem health_run (h : r.find? id = some old) (hcs : ∀ c ∈ cs, c ≠ .delete id ∧ ∀ u, c ≠ .health id u) :
    ∃ e, (cs.foldl changed r).find? id = some e ∧ e.health = old.health := by
  induction cs generalizing r old with
  | nil => exact ⟨old, h, rfl⟩
  | cons c cs ih =>
    obtain ⟨hd, hu⟩ := hcs c (by simp)
    obtain ⟨e, he, hsame⟩ := health_changed h hd hu
    obtain ⟨e', he', hsame'⟩ := ih he fun c hc => hcs c (by simp [hc])
    exact ⟨e', he', hsame'.trans hsame⟩

theorem snapshot_list (r : Registry) : Selection.snapshot (r.list false) = r.list false := by
  rw [list_false]
  apply List.mergeSort_of_pairwise
  exact r.ascending.imp fun h => decide_eq_true (Std.le_of_lt h)

theorem holds_find? (r : Registry) : r.Holds r.find? where
  get := r.get_eq
  mem_list e := by
    rw [list_false]
    exact ⟨find?_of_mem, mem_of_find?⟩
  ascending := by
    rw [list_false]
    exact r.ascending.imp lt_iff_utf8_lt.mp
  snapshot := r.snapshot_list
  enabled := by simp [list]
  answer := r.snd_change
  refused _ _ := change_eq_error_iff
  unchanged _ _ := changed_of_error
  others c id hne := by
    rw [get_eq, get_eq, find?_changed, Records.get, Records.get, Records.change_of_ne hne]
  stored c r' e h hd := by
    have hanswer : Records.answer r.find? c = .ok e := by
      rw [← snd_change, h]
      rfl
    have hr' : r.changed c = r' := changed_of_ok h
    rw [get_eq, ← hr', find?_changed, ← Records.answer_of_ne_delete hd, hanswer]
  removed id r' e h := by
    have hanswer : Records.answer r.find? (.delete id) = .ok e := by
      rw [← snd_change, h]
      rfl
    have hr' : r.changed (.delete id) = r' := changed_of_ok h
    refine ⟨(r.get_eq id).trans hanswer, ?_⟩
    apply get_of_absent
    rw [← hr', find?_changed]
    exact Records.change_self r.find? (.delete id)
  inserted e h := by
    apply get_of_find?
    rw [find?_changed]
    exact (Records.change_self _ (.upsert e)).trans (congrArg _ h)
  replaced e old h := by
    have hid : old.id = e.id := id_of_find? h
    apply get_of_find?
    rw [find?_changed]
    refine (Records.change_self _ (.upsert e)).trans ((congrArg _ h).trans ?_)
    rw [Change.effect, hid]
  health id e cs h hcs := by
    obtain ⟨e', he', hsame⟩ := health_run h hcs
    exact ⟨e', get_of_find? he', hsame⟩

/-- Whatever records a registry is made of and whatever is done to it, it holds what the map does. -/
theorem holds_run (es : List Endpoint) (cs : List Change) :
    (cs.foldl changed (ofList es)).Holds (cs.foldl Records.change (Records.ofList es)) := by
  rw [← find?_ofList, ← find?_run]
  exact holds_find? _

end Registry
end ProxyWatch
