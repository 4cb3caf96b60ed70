import ProxyWatch.Endpoint

/-!
The registry: a finite map from ids to endpoints, kept as a list in ascending order of ids.
-/
namespace ProxyWatch

/-- Why a registry operation failed. -/
inductive RegistryError
  | notFound (id : String)
  | persistence (detail : String)
  deriving DecidableEq, Repr, Inhabited

def RegistryError.message : RegistryError → String
  | notFound id => "proxy endpoint not found: " ++ id
  | persistence d => "registry persistence failed: " ++ d

/-- Puts an endpoint in its place by id, instead of one with the same id. -/
def insertById (e : Endpoint) : List Endpoint → List Endpoint
  | [] => [e]
  | x :: xs =>
    if e.id < x.id then e :: x :: xs
    else if e.id = x.id then e :: xs
    else x :: insertById e xs

/-- The ids rise strictly. -/
def Ascending (xs : List Endpoint) : Prop := xs.Pairwise fun a b => a.id < b.id

theorem mem_insertById {e a : Endpoint} {xs : List Endpoint} (h : a ∈ insertById e xs) :
    a = e ∨ a ∈ xs := by
  induction xs with
  | nil => simpa [insertById] using h
  | cons x xs ih =>
    unfold insertById at h
    split at h
    · simpa using h
    · split at h
      · simp only [List.mem_cons] at h ⊢
        exact h.imp id Or.inr
      · simp only [List.mem_cons] at h ⊢
        rcases h with h | h
        · exact Or.inr (Or.inl h)
        · exact (ih h).imp id Or.inr

theorem ascending_insertById {e : Endpoint} {xs : List Endpoint} (h : Ascending xs) :
    Ascending (insertById e xs) := by
  induction xs with
  | nil => simp [insertById, Ascending]
  | cons x xs ih =>
    obtain ⟨hx, hxs⟩ := List.pairwise_cons.1 h
    unfold insertById
    split
    · rename_i hlt
      exact List.pairwise_cons.2 ⟨fun a ha => by
        rcases List.mem_cons.1 ha with rfl | ha
        · exact hlt
        · exact String.lt_trans hlt (hx a ha), h⟩
    · split
      · rename_i heq
        exact List.pairwise_cons.2 ⟨fun a ha => heq ▸ hx a ha, hxs⟩
      · rename_i hge hne
        refine List.pairwise_cons.2 ⟨fun a ha => ?_, ih hxs⟩
        rcases mem_insertById ha with rfl | ha
        · exact Std.lt_of_le_of_ne (Std.not_lt.1 hge) (Ne.symm hne)
        · exact hx a ha

/-- Endpoints by id, each id once. -/
structure Registry where
  entries : List Endpoint
  ascending : Ascending entries
  deriving DecidableEq, Repr

namespace Registry

def empty : Registry := ⟨[], List.Pairwise.nil⟩

instance : Inhabited Registry := ⟨empty⟩

/-- Stores an endpoint under its id. -/
def put (r : Registry) (e : Endpoint) : Registry :=
  ⟨insertById e r.entries, ascending_insertById r.ascending⟩

/-- The registry of a list of endpoints; of several with one id the last one counts. -/
def ofList (es : List Endpoint) : Registry := es.foldl put empty

/-- The endpoint with the given id. -/
def find? (r : Registry) (id : String) : Option Endpoint := r.entries.find? (·.id == id)

/-- All endpoints, or only the enabled ones, by id. -/
def list (r : Registry) (enabledOnly : Bool) : List Endpoint :=
  r.entries.filter fun e => !enabledOnly || e.enabled

def get (r : Registry) (id : String) : Except RegistryError Endpoint :=
  match r.find? id with
  | some e => .ok e
  | none => .error (.notFound id)

/-- Inserts an endpoint with fresh health, or replaces the url, name, priority and enabled flag of
the one with its id. -/
def upsert (r : Registry) (e : Endpoint) : Registry × Endpoint :=
  let stored := match r.find? e.id with
    | some old =>
      { old with url := e.url, name := e.name, priority := e.priority, enabled := e.enabled }
    | none => e.resetHealth
  (r.put stored, stored)

def delete (r : Registry) (id : String) : Except RegistryError (Registry × Endpoint) :=
  match r.find? id with
  | some e => .ok (⟨r.entries.filter (·.id != id), r.ascending.filter _⟩, e)
  | none => .error (.notFound id)

/-- Changes the endpoint with the given id; the change does not touch the id. -/
def modify (r : Registry) (id : String) (f : Endpoint → Endpoint) :
    Except RegistryError (Registry × Endpoint) :=
  match r.find? id with
  | some e =>
    let stored := { f e with id := e.id }
    .ok (r.put stored, stored)
  | none => .error (.notFound id)

def setEnabled (r : Registry) (id : String) (enabled : Bool) :
    Except RegistryError (Registry × Endpoint) :=
  r.modify id fun e => { e with enabled }

def setPriority (r : Registry) (id : String) (priority : Nat) :
    Except RegistryError (Registry × Endpoint) :=
  r.modify id fun e => { e with priority }

def applyHealth (r : Registry) (id : String) (u : HealthUpdate) :
    Except RegistryError (Registry × Endpoint) :=
  r.modify id (·.update u)

end Registry
end ProxyWatch
