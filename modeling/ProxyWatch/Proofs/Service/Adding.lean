import ProxyWatch.Proofs.Progress
import ProxyWatch.Proofs.Service.Elsewhere

/-! Several callers add an endpoint with the same id at once. Each looks whether the id is taken and puts its endpoint
in under one lock; the probe of the endpoint comes after that, when others may have the lock. -/
namespace ProxyWatch.Adding

open Service (Apart Arises Elsewhere Regular)
open Watch (Flow Flows Foreign)

/-- Calls that add endpoints with one id, and that have passed the checks of what they are given. -/
structure Calls (n : Nat) where
  id : String
  endpoint : Fin n → Endpoint
  same : ∀ i, (endpoint i).id = id
  named : Blank.isAllBlank id = false
  url : ∀ i, checkProxyUrl id (endpoint i).url = .ok ()

/-- How far a call has come. -/
inductive Place
  | waiting
  /-- It has the lock. -/
  | locked
  /-- It has found that the id is free, and has the lock. -/
  | absent
  /-- It has found that the id is taken, and has the lock. -/
  | taken
  /-- It has put its endpoint in, and has the lock. -/
  | inserted (r : Except ServiceError Endpoint)
  /-- Its endpoint is to be probed. -/
  | unprobed
  /-- It waits for its probe. -/
  | probing (key : Nat)
  | done (r : Except ServiceError Endpoint)

namespace Place

def Holds : Place → Prop
  | locked | absent | taken | inserted _ => True
  | _ => False

/-- How many steps are left to a call at most, but for what it waits for. -/
def rank : Place → Nat
  | waiting => 7
  | locked => 6
  | absent => 5
  | inserted _ => 4
  | unprobed => 3
  | probing _ => 2
  | taken => 1
  | done _ => 0

end Place

/-- Calls at work on a service. -/
structure Scene (n : Nat) where
  service : Service
  place : Fin n → Place
  /-- The lock is with a call that adds another endpoint. -/
  held : Bool := false
  /-- The calls that have put their endpoints in. -/
  added : List (Fin n) := []
  /-- The probes that the calls have sent. -/
  sent : List (Fin n × ProbeCall) := []
  /-- The outcomes that were applied to what has the id, with the keys of their rounds. -/
  outcomes : List (Nat × ProbeOutcome) := []

namespace Scene

variable {n : Nat}

/-- No call has begun. -/
def start (s : Service) (n : Nat) : Scene n := { service := s, place := fun _ => .waiting }

def set (c : Scene n) (i : Fin n) (x : Place) : Scene n := { c with place := Function.update c.place i x }

@[simp] theorem place_set_self {c : Scene n} {i : Fin n} {x : Place} : (c.set i x).place i = x := by
  simp [set]

theorem place_set_of_ne {c : Scene n} {i j : Fin n} {x : Place} (h : j ≠ i) : (c.set i x).place j = c.place j := by
  simp [set, h]

/-- Every call has returned. -/
def Complete (c : Scene n) : Prop := ∀ i, ∃ r, c.place i = .done r

end Scene

/-- What a call reads off its round. -/
def verdict (w : Watch) (key : Nat) (id : String) : Except ServiceError Endpoint :=
  match ((w.round? key).getD { flights := [] }).checks.head?.bind (·.applied) with
  | some a => .ok a.endpoint
  | none => .error (.registry (.notFound id))

/-- One call goes on by one step, or something else happens. -/
inductive Step {n : Nat} (calls : Calls n) (c : Scene n) : Scene n → Prop
  | lock {i} (hp : c.place i = .waiting) (hh : c.held = false) (hf : ∀ j, ¬ (c.place j).Holds) :
      Step calls c (c.set i .locked)
  | look {i} (hp : c.place i = .locked) : Step calls c
      (c.set i (if (c.service.watch.store.registry.find? calls.id).isSome then .taken else .absent))
  | refuse {i} (hp : c.place i = .taken) : Step calls c (c.set i (.done (.error (.endpointExists calls.id))))
  | insert {i} (hp : c.place i = .absent) : Step calls c
      { c.set i (.inserted (c.service.change (.upsert (calls.endpoint i).resetHealth)).2) with
        service := (c.service.change (.upsert (calls.endpoint i).resetHealth)).1, added := c.added ++ [i] }
  | leave {i r} (hp : c.place i = .inserted r) : Step calls c
      (c.set i (if (calls.endpoint i).enabled then .unprobed else .done r))
  /-- The endpoint isn't there any more. -/
  | miss {i err} (hp : c.place i = .unprobed) (hg : c.service.get calls.id = .error err) :
      Step calls c (c.set i (.done (.error err)))
  | unbounded {i e} (hp : c.place i = .unprobed) (hg : c.service.get calls.id = .ok e)
      (hs : c.service.watch.startRound? [e] false = none) : Step calls c (c.set i (.done (.error .noProbeBound)))
  | send {i e w key} (hp : c.place i = .unprobed) (hg : c.service.get calls.id = .ok e)
      (hs : c.service.watch.startRound? [e] false = some (w, key)) : Step calls c
      { c.set i (.probing key) with
        service := { c.service with watch := w }
        sent := c.sent ++ (w.journal.probes.drop c.service.watch.journal.probes.length).map (i, ·) }
  | finish {i key} (hp : c.place i = .probing key) (ho : c.service.watch.isOver key = true) : Step calls c
      { c.set i (.done (verdict c.service.watch key calls.id)) with
        service := { c.service with watch := c.service.watch.dropRound key } }
  /-- A probe lands. -/
  | land {key r f flights} (hr : (key, r) ∈ c.service.watch.rounds)
      (hl : Round.landed? c.service.watch.now r.flights = some (f, flights)) : Step calls c
      { c with
        service := { c.service with watch := c.service.watch.landed key r f flights }
        outcomes := c.outcomes ++ c.service.watch.effect calls.id key r f }
  /-- Another caller takes its round out, or gives it up. -/
  | drop {key} (hc : c.service.watch.cycle? ≠ some key) (hf : ∀ i, c.place i ≠ .probing key) : Step calls c
      { c with service := { c.service with watch := c.service.watch.dropRound key } }
  | other {t} (h : Elsewhere calls.id c.service t) : Step calls c { c with service := t }
  /-- A call that adds another endpoint takes the lock. -/
  | take (hh : c.held = false) (hf : ∀ j, ¬ (c.place j).Holds) : Step calls c { c with held := true }
  | give : Step calls c { c with held := false }

/-- Any number of steps, in any order that the lock allows. -/
abbrev Steps {n : Nat} (calls : Calls n) : Scene n → Scene n → Prop := Relation.ReflTransGen (Step calls)

/-- Where a call can be before one has put its endpoint in. -/
inductive Early : Place → Prop
  | waiting : Early .waiting
  | locked : Early .locked
  | absent : Early .absent

/-- No call has put its endpoint in. -/
structure Free {n : Nat} (calls : Calls n) (c : Scene n) : Prop where
  added : c.added = []
  absent : c.service.watch.store.registry.find? calls.id = none
  sent : c.sent = []
  outcomes : c.outcomes = []
  early : ∀ i, Early (c.place i)

/-- The probe of a call has landed, once; this is what it made of the endpoint. -/
def Landed (e : Endpoint) (limit key : Nat) (outcomes : List (Nat × ProbeOutcome)) (x : Endpoint) : Prop :=
  ∃ pre o post, outcomes = pre ++ (key, o) :: post ∧ (∀ y ∈ pre ++ post, y.1 ≠ key) ∧
    x = e.resetHealth.treated limit ((pre ++ [(key, o)]).map (·.2))

/-- One call has sent a probe, of its own endpoint. -/
def Sent {n : Nat} (calls : Calls n) (sent : List (Fin n × ProbeCall)) (i : Fin n) : Prop :=
  ∃ p, sent = [(i, p)] ∧ p.proxy = (calls.endpoint i).url

/-- One call has put its endpoint in. -/
structure Settled {n : Nat} (calls : Calls n) (limit : Nat) (c : Scene n) (i : Fin n) : Prop where
  added : c.added = [i]
  /-- What is stored is the call's endpoint with fresh health, to which outcomes were applied. -/
  stored : c.service.watch.store.registry.find? calls.id =
    some ((calls.endpoint i).resetHealth.treated limit (c.outcomes.map (·.2)))
  /-- Its url, its name and its priority are those of the call, and so is whether it is enabled, unless enough of its
  probes have failed to disable it. -/
  kept : ∀ y, c.service.watch.store.registry.find? calls.id = some y → y.fixed = (calls.endpoint i).fixed ∧
    (c.outcomes.countP (·.2.level = .failed) < limit → y.enabled = (calls.endpoint i).enabled)
  refused : ∀ j, j ≠ i → ∀ r, c.place j = .done r → r = .error (.endpointExists calls.id)
  /-- The call succeeds. It returns what its own probe has left, and if no other probe has landed this is stored. -/
  granted : ∀ r, c.place i = .done r → if (calls.endpoint i).enabled
    then ∃ key x, Landed (calls.endpoint i) limit key c.outcomes x ∧ r = .ok x ∧
      ((∀ o ∈ c.outcomes, o.1 = key) → c.service.watch.store.registry.find? calls.id = some x)
    else r = .ok (calls.endpoint i).resetHealth
  /-- One probe is sent if the endpoint is enabled, and none otherwise. -/
  probes : if (calls.endpoint i).enabled
    then Sent calls c.sent i ∨ c.sent = [] ∧ ∀ r, c.place i ≠ .done r
    else c.sent = []

section
variable {n limit key : Nat} {calls : Calls n} {c c' : Scene n} {i j : Fin n} {x : Place} {e y : Endpoint}
  {outcomes more : List (Nat × ProbeOutcome)} {config : Config} {s t : Service} {w w' : Watch}
  {sent : List (Fin n × ProbeCall)}

/-! The probe of a call -/

theorem Landed.append (h : Landed e limit key outcomes y) (hm : ∀ o ∈ more, o.1 ≠ key) :
    Landed e limit key (outcomes ++ more) y := by
  obtain ⟨pre, o, post, rfl, hother, hy⟩ := h
  refine ⟨pre, o, post ++ more, by simp, ?_, hy⟩
  rw [← List.append_assoc]
  exact List.forall_mem_append.mpr ⟨hother, hm⟩

/-- If no other probe has landed, what the call returns is what is stored. -/
theorem Landed.alone (h : Landed e limit key outcomes y) (ha : ∀ o ∈ outcomes, o.1 = key) :
    y = e.resetHealth.treated limit (outcomes.map (·.2)) := by
  obtain ⟨pre, o, post, rfl, hother, rfl⟩ := h
  have hnone : pre ++ post = [] := List.eq_nil_iff_forall_not_mem.mpr fun z hz => hother z hz <| ha z <| by
    rcases List.mem_append.mp hz with hz | hz
    · exact List.mem_append_left _ hz
    · exact List.mem_append_right _ (List.mem_cons_of_mem _ hz)
  obtain ⟨rfl, rfl⟩ := List.append_eq_nil_iff.mp hnone
  rfl

/-! How far the calls have come -/

/-- Where a call can be when another one has put its endpoint in. -/
inductive Late (id : String) : Place → Prop
  | waiting : Late id .waiting
  | locked : Late id .locked
  | taken : Late id .taken
  | refused : Late id (.done (.error (.endpointExists id)))

/-- Where the call is that has put its endpoint in, and how it is with its probe. -/
inductive Wins (calls : Calls n) (limit : Nat) (w : Watch) (sent : List (Fin n × ProbeCall))
    (outcomes : List (Nat × ProbeOutcome)) (i : Fin n) : Place → Prop
  | inserted (hs : sent = []) : Wins calls limit w sent outcomes i (.inserted (.ok (calls.endpoint i).resetHealth))
  | unprobed (hs : sent = []) (he : (calls.endpoint i).enabled = true) : Wins calls limit w sent outcomes i .unprobed
  | flying {key : Nat} {f : Flight} (hs : Sent calls sent i) (he : (calls.endpoint i).enabled = true)
      (hf : Foreign key w) (hr : (key, { flights := [f] }) ∈ w.rounds) (hid : f.endpoint = calls.id)
      (ho : ∀ o ∈ outcomes, o.1 ≠ key) : Wins calls limit w sent outcomes i (.probing key)
  | landed {key : Nat} {check : Check} {a : Applied} (hs : Sent calls sent i)
      (he : (calls.endpoint i).enabled = true) (hf : Foreign key w)
      (hr : (key, { flights := [], checks := [check] }) ∈ w.rounds) (ha : check.applied = some a)
      (hl : Landed (calls.endpoint i) limit key outcomes a.endpoint) : Wins calls limit w sent outcomes i (.probing key)
  | passed (hs : sent = []) (he : (calls.endpoint i).enabled = false) :
      Wins calls limit w sent outcomes i (.done (.ok (calls.endpoint i).resetHealth))
  | probed {key : Nat} {y : Endpoint} (hs : Sent calls sent i) (he : (calls.endpoint i).enabled = true)
      (hf : Foreign key w) (hr : ∀ r, (key, r) ∉ w.rounds) (hl : Landed (calls.endpoint i) limit key outcomes y) :
      Wins calls limit w sent outcomes i (.done (.ok y))

/-- The call has put its endpoint in, and no other has. -/
structure Won (calls : Calls n) (limit : Nat) (c : Scene n) (i : Fin n) : Prop where
  added : c.added = [i]
  stored : c.service.watch.store.registry.find? calls.id =
    some ((calls.endpoint i).resetHealth.treated limit (c.outcomes.map (·.2)))
  wins : Wins calls limit c.service.watch c.sent c.outcomes i (c.place i)
  late : ∀ j, j ≠ i → Late calls.id (c.place j)

/-- What holds between the steps. -/
structure Kept (config : Config) (calls : Calls n) (limit : Nat) (c : Scene n) : Prop where
  regular : c.service.Regular config
  limit_eq : c.service.watch.limit = limit
  /-- The lock is with one call at most. -/
  exclusive : ∀ i j, (c.place i).Holds → (c.place j).Holds → i = j
  /-- The keys of outcomes were given out. -/
  keys : ∀ o ∈ c.outcomes, o.1 < c.service.watch.nextKey
  course : Free calls c ∨ ∃ i, Won calls limit c i

/-! Steps of the calls -/

theorem exclusive_set (h : ∀ i j, (c.place i).Holds → (c.place j).Holds → i = j)
    (hx : x.Holds → (c.place i).Holds ∨ ∀ j, ¬ (c.place j).Holds) (j k : Fin n)
    (hj : ((c.set i x).place j).Holds) (hk : ((c.set i x).place k).Holds) : j = k := by
  have hold : ∀ j, ((c.set i x).place j).Holds → j = i ∧ x.Holds ∨ (c.place j).Holds := fun j hj => by
    by_cases hji : j = i
    · subst hji
      exact .inl ⟨rfl, by simpa using hj⟩
    · exact .inr (by rwa [Scene.place_set_of_ne hji] at hj)
  have hfirst : x.Holds → ∀ k, (c.place k).Holds → i = k := fun hxi k hk =>
    (hx hxi).elim (fun hi => h i k hi hk) fun hnone => absurd hk (hnone k)
  rcases hold j hj with ⟨rfl, hxj⟩ | hj'
  · exact (hold k hk).elim (fun hk' => hk'.1.symm) (hfirst hxj k)
  · rcases hold k hk with ⟨rfl, hxk⟩ | hk'
    · exact (hfirst hxk j hj').symm
    · exact h j k hj' hk'

/-- A call goes on without touching the service. -/
theorem Kept.set (h : Kept config calls limit c) (hx : x.Holds → (c.place i).Holds ∨ ∀ j, ¬ (c.place j).Holds)
    (he : Free calls c → Early x)
    (hw : Wins calls limit c.service.watch c.sent c.outcomes i (c.place i) →
      Wins calls limit c.service.watch c.sent c.outcomes i x)
    (hl : (c.service.watch.store.registry.find? calls.id).isSome = true → Late calls.id (c.place i) →
      Late calls.id x) : Kept config calls limit (c.set i x) where
  regular := h.regular
  limit_eq := h.limit_eq
  exclusive := exclusive_set h.exclusive hx
  keys := h.keys
  course := by
    refine h.course.imp (fun hf => { hf with early := fun j => ?_ }) fun ⟨k, hk⟩ => ⟨k, { hk with
      wins := ?_, late := fun j hj => ?_ }⟩
    · by_cases hji : j = i
      · rw [hji, Scene.place_set_self]
        exact he hf
      · rw [Scene.place_set_of_ne hji]
        exact hf.early j
    · by_cases hki : k = i
      · subst hki
        rw [Scene.place_set_self]
        exact hw hk.wins
      · rw [Scene.place_set_of_ne hki]
        exact hk.wins
    · by_cases hji : j = i
      · subst hji
        rw [Scene.place_set_self]
        exact hl (by rw [hk.stored]; rfl) (hk.late j hj)
      · rw [Scene.place_set_of_ne hji]
        exact hk.late j hj

theorem Kept.insert (h : Kept config calls limit c) (hp : c.place i = .absent) : Kept config calls limit
    { c.set i (.inserted (c.service.change (.upsert (calls.endpoint i).resetHealth)).2) with
      service := (c.service.change (.upsert (calls.endpoint i).resetHealth)).1, added := c.added ++ [i] } := by
  have hfree : Free calls c := h.course.resolve_right fun ⟨k, hk⟩ => by
    by_cases hki : i = k
    · subst hki
      have hw := hk.wins
      rw [hp] at hw
      cases hw
    · have hl := hk.late i hki
      rw [hp] at hl
      cases hl
  have hplace : c.place i = .absent → (c.place i).Holds := fun hp => by rw [hp]; trivial
  have habsent : c.service.watch.store.registry.find? (calls.endpoint i).id = none := calls.same i ▸ hfree.absent
  obtain ⟨store, files, hshape⟩ := c.service.change_shape (.upsert (calls.endpoint i).resetHealth)
  constructor
  case regular => exact h.regular.meanwhile (.change _)
  case limit_eq =>
    rw [hshape]
    exact h.limit_eq
  case exclusive => exact exclusive_set h.exclusive fun _ => .inl (hplace hp)
  case keys =>
    intro o ho
    rw [hshape]
    exact h.keys o ho
  case course =>
    refine .inr ⟨i, ?_, ?_, ?_, fun j hj => ?_⟩
    · rw [hfree.added]
      rfl
    · have hstored := Service.find?_change_upsert c.service (calls.endpoint i) habsent
      rw [calls.same i] at hstored
      refine hstored.trans ?_
      change _ = some (Endpoint.treated _ limit (c.outcomes.map (·.2)))
      rw [hfree.outcomes]
      rfl
    · have hresult : (c.service.change (.upsert (calls.endpoint i).resetHealth)).2 =
          .ok (calls.endpoint i).resetHealth := by
        rw [Service.change_upsert]
        exact congrArg Except.ok (Registry.upsert_of_absent habsent)
      change Wins _ _ _ _ _ _ ((c.set i _).place i)
      rw [Scene.place_set_self, hresult]
      exact .inserted hfree.sent
    · change Late _ ((c.set i _).place j)
      rw [Scene.place_set_of_ne hj]
      have hearly := hfree.early j
      cases hpj : c.place j with
      | waiting => exact .waiting
      | locked | absent => exact absurd (h.exclusive j i (by rw [hpj]; trivial) (hplace hp)) hj
      | _ =>
        rw [hpj] at hearly
        cases hearly

/-- A call that is somewhere where only the one can be that has put its endpoint in. -/
theorem Kept.won (h : Kept config calls limit c) (he : ¬ Early (c.place i)) (hl : ¬ Late calls.id (c.place i)) :
    Won calls limit c i := by
  rcases h.course with hf | ⟨k, hk⟩
  · exact absurd (hf.early i) he
  · by_cases hki : i = k
    · exact hki ▸ hk
    · exact absurd (hk.late i hki) hl

/-- The call that has put its endpoint in goes on. -/
theorem Won.set (h : Won calls limit c i)
    (hf : c'.service.watch.store.registry.find? calls.id = c.service.watch.store.registry.find? calls.id)
    (ha : c'.added = c.added) (ho : c'.outcomes = c.outcomes) (hp : c'.place = (c.set i x).place)
    (hw : Wins calls limit c'.service.watch c'.sent c.outcomes i x) : Won calls limit c' i where
  added := ha.trans h.added
  stored := by rw [hf, ho, h.stored]
  wins := by
    rw [ho, hp, Scene.place_set_self]
    exact hw
  late j hj := by
    rw [hp, Scene.place_set_of_ne hj]
    exact h.late j hj

theorem probes_startRound {dry : Bool} (h : w.startRound? [e] dry = some (w', key)) : w'.journal.probes =
    w.journal.probes ++ [{ proxy := e.url, target := w.checking.probeUrl, timeout := w.checking.timeout }] := by
  obtain ⟨bound, -, hs⟩ := Watch.exists_sentRound h
  cases hs
  rfl

theorem Kept.send (h : Kept config calls limit c) (hp : c.place i = .unprobed) (hg : c.service.get calls.id = .ok e)
    (hs : c.service.watch.startRound? [e] false = some (w, key)) : Kept config calls limit
    { c.set i (.probing key) with
      service := { c.service with watch := w }
      sent := c.sent ++ (w.journal.probes.drop c.service.watch.journal.probes.length).map (i, ·) } := by
  have hwon := h.won (i := i) (by rw [hp]; rintro ⟨⟩) (by rw [hp]; rintro ⟨⟩)
  obtain ⟨hsent, henabled⟩ : c.sent = [] ∧ (calls.endpoint i).enabled = true := by
    have hwins := hwon.wins
    rw [hp] at hwins
    cases hwins with
    | unprobed hs he => exact ⟨hs, he⟩
  have hfound : c.service.watch.store.registry.find? calls.id = some e := by
    cases hf : c.service.watch.store.registry.find? calls.id with
    | none =>
      rw [Service.get, Registry.get_of_absent hf] at hg
      cases hg
    | some y =>
      rw [Service.get_of_find? hf] at hg
      cases hg
      rfl
  have hurl : e.url = (calls.endpoint i).url := by
    cases hfound.symm.trans hwon.stored
    exact congrArg (·.2.1) Endpoint.fixed_treated
  have hprobes := probes_startRound hs
  have hregular := h.regular.send hs
  obtain ⟨_, _, probes, flights, -, rfl, hids, -, rfl⟩ := Watch.startRound_shape hs
  obtain ⟨f, rfl, hid⟩ := List.map_eq_singleton_iff.mp hids
  have hid : f.endpoint = calls.id := hid.trans (Registry.id_of_find? hfound)
  refine ⟨hregular, h.limit_eq, exclusive_set h.exclusive (by rintro ⟨⟩), fun o ho => Nat.lt_succ_of_lt (h.keys o ho),
    .inr ⟨i, hwon.set rfl rfl rfl rfl ?_⟩⟩
  refine .flying ?_ henabled ⟨Nat.lt_succ_self _, fun he => Nat.lt_irrefl _ (h.regular.cycle _ he)⟩
    (List.mem_append_right _ (List.mem_singleton_self _)) hid fun o ho => Nat.ne_of_lt (h.keys o ho)
  refine ⟨{ proxy := e.url, target := c.service.watch.checking.probeUrl, timeout := c.service.watch.checking.timeout },
    ?_, hurl⟩
  change c.sent ++ (probes.drop c.service.watch.journal.probes.length).map (i, ·) = _
  rw [show probes = _ from hprobes, hsent, List.drop_left]
  rfl

theorem Kept.finish (h : Kept config calls limit c) (hp : c.place i = .probing key)
    (ho : c.service.watch.isOver key = true) : Kept config calls limit
    { c.set i (.done (verdict c.service.watch key calls.id)) with
      service := { c.service with watch := c.service.watch.dropRound key } } := by
  have hwon := h.won (i := i) (by rw [hp]; rintro ⟨⟩) (by rw [hp]; rintro ⟨⟩)
  have hwins := hwon.wins
  rw [hp] at hwins
  cases hwins with
  | flying _ _ _ hr =>
    rw [Watch.isOver, h.regular.distinct.round?_of_mem hr] at ho
    cases ho
  | @landed _ _ a hs he hf hr ha hl =>
    have hverdict : verdict c.service.watch key calls.id = .ok a.endpoint := by
      rw [verdict, h.regular.distinct.round?_of_mem hr, Option.getD_some, List.head?_cons, Option.bind_some, ha]
    refine ⟨h.regular.meanwhile (.drop hf.2), h.limit_eq, exclusive_set h.exclusive (by rintro ⟨⟩), h.keys,
      .inr ⟨i, hwon.set rfl rfl rfl rfl ?_⟩⟩
    rw [hverdict]
    exact .probed hs he hf (fun r hr' => by simp [Watch.dropRound] at hr') hl

/-! What happens meanwhile -/

theorem Wins.apart (h : Wins calls limit w sent outcomes i x) (hf : ∀ {key}, Foreign key w → Foreign key w')
    (hkeep : ∀ {key r}, Foreign key w → x = .probing key → (key, r) ∈ w.rounds → (key, r) ∈ w'.rounds)
    (hgone : ∀ {key}, Foreign key w → (∀ r, (key, r) ∉ w.rounds) → ∀ r, (key, r) ∉ w'.rounds) :
    Wins calls limit w' sent outcomes i x := by
  cases h with
  | inserted hs => exact .inserted hs
  | unprobed hs he => exact .unprobed hs he
  | flying hs he hk hr hid ho => exact .flying hs he (hf hk) (hkeep hk rfl hr) hid ho
  | landed hs he hk hr ha hl => exact .landed hs he (hf hk) (hkeep hk rfl hr) ha hl
  | passed hs he => exact .passed hs he
  | probed hs he hk hr hl => exact .probed hs he (hf hk) (hgone hk hr) hl

/-- Something happens to the service that doesn't concern the endpoint, nor the rounds of the calls. -/
theorem Kept.around (h : Kept config calls limit c) (hr : t.Regular config)
    (hs : t.watch.store.registry.find? calls.id = c.service.watch.store.registry.find? calls.id)
    (hl : t.watch.limit = c.service.watch.limit) (hn : c.service.watch.nextKey ≤ t.watch.nextKey)
    (hf : ∀ {key}, Foreign key c.service.watch → Foreign key t.watch)
    (hkeep : ∀ {key r}, Foreign key c.service.watch → (∃ i, c.place i = .probing key) →
      (key, r) ∈ c.service.watch.rounds → (key, r) ∈ t.watch.rounds)
    (hgone : ∀ {key}, Foreign key c.service.watch → (∀ r, (key, r) ∉ c.service.watch.rounds) →
      ∀ r, (key, r) ∉ t.watch.rounds) : Kept config calls limit { c with service := t } where
  regular := hr
  limit_eq := hl.trans h.limit_eq
  exclusive := h.exclusive
  keys o ho := (h.keys o ho).trans_le hn
  course := h.course.imp (fun hfree => { hfree with absent := hs.trans hfree.absent }) fun ⟨i, hi⟩ => ⟨i, { hi with
    stored := hs.trans hi.stored
    wins := hi.wins.apart hf (fun hk hp hr => hkeep hk ⟨i, hp⟩ hr) hgone }⟩

theorem Kept.other (h : Kept config calls limit c) (ht : Elsewhere calls.id c.service t) :
    Kept config calls limit { c with service := t } := by
  have hapart := ht.apart
  exact h.around (h.regular.move ht.move) hapart.found hapart.limit hapart.keys hapart.foreign
    (fun hk _ hr => (hapart.rounds hk).mpr hr) fun hk hnone r hr => hnone r ((hapart.rounds hk).mp hr)

theorem Kept.drop (h : Kept config calls limit c) (hc : c.service.watch.cycle? ≠ some key)
    (hf : ∀ i, c.place i ≠ .probing key) : Kept config calls limit
    { c with service := { c.service with watch := c.service.watch.dropRound key } } := by
  refine h.around (t := { c.service with watch := c.service.watch.dropRound key }) (h.regular.meanwhile (.drop hc)) rfl
    rfl (Nat.le_refl _) id (fun {k r} _ ⟨i, hp⟩ hr => ?_) fun _ hnone r hr => hnone r (List.mem_filter.mp hr).1
  have hne : k ≠ key := fun he => hf i (he ▸ hp)
  exact (Service.mem_dropRound_of_ne hne).mpr hr

/-- What a probe that lands makes of the call that has put its endpoint in. -/
theorem Wins.land {r : Round} {f : Flight} {flights : List Flight} (hd : Watch.Distinct w) (hr : (key, r) ∈ w.rounds)
    (hl : Round.landed? w.now r.flights = some (f, flights))
    (hs : w.store.registry.find? calls.id = some ((calls.endpoint i).resetHealth.treated w.limit (outcomes.map (·.2))))
    (h : Wins calls w.limit w sent outcomes i x) : Wins calls w.limit (w.landed key r f flights) sent
      (outcomes ++ w.effect calls.id key r f) i x := by
  have hforeign : ∀ {k}, Foreign k w → Foreign k (w.landed key r f flights) := fun hk => by
    have hn : (w.landed key r f flights).nextKey = w.nextKey := Watch.landed_frame.2.1
    have hc : (w.landed key r f flights).cycle? = w.cycle? := Watch.landed_frame.2.2.1
    exact ⟨hn ▸ hk.1, hc ▸ hk.2⟩
  have hothers : ∀ {k}, k ≠ key → ∀ o ∈ w.effect calls.id key r f, o.1 ≠ k := fun hne o ho he =>
    hne (he.symm.trans (Watch.key_of_effect o ho))
  cases h with
  | inserted hs => exact .inserted hs
  | unprobed hs he => exact .unprobed hs he
  | passed hs he => exact .passed hs he
  | @flying k g hsent he hk hg hid ho =>
    by_cases hkey : k = key
    · subst hkey
      obtain rfl := hd.eq_of_mem hg hr
      obtain ⟨rfl, rfl⟩ : g = f ∧ flights = [] := by
        simp only [Round.landed?] at hl
        split at hl
        · cases hl
          exact ⟨rfl, rfl⟩
        · cases hl
      obtain ⟨happlied, -, -⟩ := Watch.applyOutcome_of_find? (o := .ofResult w.clock g.result) (hid ▸ hs)
      have hcheck : (w.checkOf { flights := [g] } g).applied = some _ := happlied
      refine .landed hsent he (hforeign hk) (Watch.mem_landed hr) hcheck ?_
      rw [Watch.effect, if_pos ⟨hid, by rw [hcheck]; rfl⟩]
      refine ⟨outcomes, _, [], rfl, by simpa using ho, ?_⟩
      rw [List.map_append, Endpoint.treated_append]
      rfl
    · exact .flying hsent he (hforeign hk) ((Watch.mem_landed_of_ne hkey).mpr hg) hid
        (List.forall_mem_append.mpr ⟨ho, hothers hkey⟩)
  | @landed k _ _ hsent he hk hg ha hland =>
    have hkey : k ≠ key := by
      rintro rfl
      obtain rfl := hd.eq_of_mem hg hr
      cases hl
    exact .landed hsent he (hforeign hk) ((Watch.mem_landed_of_ne hkey).mpr hg) ha (hland.append (hothers hkey))
  | @probed k _ hsent he hk hg hland =>
    have hkey : k ≠ key := by
      rintro rfl
      exact hg r hr
    exact .probed hsent he (hforeign hk) (fun r' hr' => hg r' ((Watch.mem_landed_of_ne hkey).mp hr'))
      (hland.append (hothers hkey))

theorem land_eq {r : Round} {f : Flight} {flights : List Flight}
    (hl : Round.landed? w.now r.flights = some (f, flights)) : w.land? key r = some (w.landed key r f flights) := by
  rw [Watch.land?, hl]
  rfl

theorem Kept.land {r : Round} {f : Flight} {flights : List Flight} (h : Kept config calls limit c)
    (hr : (key, r) ∈ c.service.watch.rounds)
    (hl : Round.landed? c.service.watch.now r.flights = some (f, flights)) : Kept config calls limit { c with
      service := { c.service with watch := c.service.watch.landed key r f flights }
      outcomes := c.outcomes ++ c.service.watch.effect calls.id key r f } := by
  have hlimit : (c.service.watch.landed key r f flights).limit = c.service.watch.limit := Watch.landed_frame.1
  have hnext : (c.service.watch.landed key r f flights).nextKey = c.service.watch.nextKey := Watch.landed_frame.2.1
  refine ⟨h.regular.meanwhile (.land hr (land_eq hl)), hlimit.trans h.limit_eq, h.exclusive, fun o ho => ?_, ?_⟩
  · rcases List.mem_append.mp ho with ho | ho
    · exact hnext ▸ h.keys o ho
    · rw [Watch.key_of_effect o ho]
      exact hnext ▸ h.regular.distinct.fresh _ hr
  · refine h.course.imp (fun hfree => ?_) fun ⟨i, hi⟩ => ⟨i, ?_⟩
    · exact { hfree with
        absent := Watch.find?_landed_of_absent hfree.absent
        outcomes := by rw [hfree.outcomes, Watch.effect_of_absent hfree.absent]; rfl }
    · have hlimit := h.limit_eq
      subst hlimit
      refine { hi with stored := ?_, wins := hi.wins.land h.regular.distinct hr hl hi.stored }
      rw [List.map_append, Endpoint.treated_append]
      exact Watch.find?_landed hi.stored

theorem Kept.leave {r : Except ServiceError Endpoint} (h : Kept config calls limit c) (hp : c.place i = .inserted r) :
    Kept config calls limit (c.set i (if (calls.endpoint i).enabled then .unprobed else .done r)) := by
  refine h.set (fun _ => .inl (by rw [hp]; trivial)) (fun hf => ?_) (fun hw => ?_) fun _ hl => ?_
  · have hearly := hf.early i
    rw [hp] at hearly
    cases hearly
  · rw [hp] at hw
    cases hw with
    | inserted hs =>
      split
      · rename_i he
        exact .unprobed hs he
      · rename_i he
        exact .passed hs (by simpa using he)
  · rw [hp] at hl
    cases hl

theorem Kept.look (h : Kept config calls limit c) (hp : c.place i = .locked) : Kept config calls limit
    (c.set i (if (c.service.watch.store.registry.find? calls.id).isSome then .taken else .absent)) := by
  refine h.set (fun _ => .inl (by rw [hp]; trivial)) (fun hf => ?_) (fun hw => ?_) fun hs _ => ?_
  · rw [hf.absent]
    exact .absent
  · rw [hp] at hw
    cases hw
  · rw [if_pos hs]
    exact .taken

theorem Kept.refuse (h : Kept config calls limit c) (hp : c.place i = .taken) :
    Kept config calls limit (c.set i (.done (.error (.endpointExists calls.id)))) := by
  refine h.set nofun (fun hf => ?_) (fun hw => ?_) fun _ _ => .refused
  · have hearly := hf.early i
    rw [hp] at hearly
    cases hearly
  · rw [hp] at hw
    cases hw

/-- What a call sends a probe of is there. -/
theorem Kept.found (h : Kept config calls limit c) (hp : c.place i = .unprobed) :
    ∃ e, c.service.get calls.id = .ok e :=
  ⟨_, Service.get_of_find? (h.won (i := i) (by rw [hp]; rintro ⟨⟩) (by rw [hp]; rintro ⟨⟩)).stored⟩

theorem exists_send (h : s.Regular config) (e : Endpoint) : ∃ x, s.watch.startRound? [e] false = some x := by
  obtain ⟨d, hd, -⟩ := Watch.outerTimeout_eq h.valid
  exact Watch.exists_startRound (h.checking ▸ hd)

theorem Kept.step (h : Kept config calls limit c) (hs : Step calls c c') : Kept config calls limit c' := by
  cases hs with
  | lock hp _ hf =>
    refine h.set (fun _ => .inr hf) (fun _ => .locked) (fun hw => ?_) fun _ _ => .locked
    rw [hp] at hw
    cases hw
  | look hp => exact h.look hp
  | refuse hp => exact h.refuse hp
  | insert hp => exact h.insert hp
  | leave hp => exact h.leave hp
  | miss hp hg =>
    obtain ⟨e, he⟩ := h.found hp
    cases hg.symm.trans he
  | @unbounded _ e hp hg hs =>
    obtain ⟨x, hx⟩ := exists_send h.regular e
    cases hs.symm.trans hx
  | send hp hg hs => exact h.send hp hg hs
  | finish hp ho => exact h.finish hp ho
  | land hr hl => exact h.land hr hl
  | drop hc hf => exact h.drop hc hf
  | other ht => exact h.other ht
  | take | give =>
    exact ⟨h.regular, h.limit_eq, h.exclusive, h.keys,
      h.course.imp (fun hf => { hf with }) fun ⟨i, hi⟩ => ⟨i, { hi with }⟩⟩

theorem Kept.steps (h : Kept config calls limit c) (hs : Steps calls c c') : Kept config calls limit c' := by
  induction hs with
  | refl => exact h
  | tail _ hs ih => exact ih.step hs

theorem kept_start (calls : Calls n) (h : Arises config s)
    (ha : s.watch.store.registry.find? calls.id = none) : Kept config calls s.watch.limit (.start s n) where
  regular := h.regular
  limit_eq := rfl
  exclusive := fun _ _ hi => hi.elim
  keys := nofun
  course := .inl ⟨rfl, ha, rfl, rfl, fun _ => .waiting⟩

theorem Won.settled (h : Won calls limit c i) : Settled calls limit c i := by
  have hwins := h.wins
  refine ⟨h.added, h.stored, fun y hy => ?_, fun j hj r hr => ?_, fun r hr => ?_, ?_⟩
  · cases h.stored.symm.trans hy
    refine ⟨Endpoint.fixed_treated, fun hf => Endpoint.enabled_treated ?_⟩
    rw [List.countP_map]
    exact (Nat.zero_add _).trans_lt hf
  · have hlate := h.late j hj
    rw [hr] at hlate
    cases hlate
    rfl
  · rw [hr] at hwins
    cases hwins with
    | passed _ he => rw [if_neg (by simp [he])]
    | @probed key y _ he _ _ hl =>
      rw [if_pos he]
      exact ⟨key, y, hl, rfl, fun ha => by rw [h.stored, ← hl.alone ha]⟩
  · cases hp : c.place i with
    | inserted =>
      rw [hp] at hwins
      cases hwins with
      | inserted hs =>
        split
        · exact .inr ⟨hs, nofun⟩
        · exact hs
    | unprobed =>
      rw [hp] at hwins
      cases hwins with
      | unprobed hs he =>
        rw [if_pos he]
        exact .inr ⟨hs, nofun⟩
    | probing =>
      rw [hp] at hwins
      cases hwins with
      | flying hs he | landed hs he =>
        rw [if_pos he]
        exact .inl hs
    | done =>
      rw [hp] at hwins
      cases hwins with
      | passed hs he =>
        rw [if_neg (by simp [he])]
        exact hs
      | probed hs he =>
        rw [if_pos he]
        exact .inl hs
    | waiting | locked | absent | taken =>
      rw [hp] at hwins
      cases hwins

/-- The call that puts its endpoint in stores it as it is, with fresh health. -/
theorem Kept.stored_of_step (h : Kept config calls limit c) (hs : Step calls c c') (hb : c.added = [])
    (ha : c'.added = [i]) :
    c'.service.watch.store.registry.find? calls.id = some (calls.endpoint i).resetHealth := by
  have hwon : Won calls limit c' i := by
    rcases (h.step hs).course with hf | ⟨k, hk⟩
    · cases ha.symm.trans hf.added
    · cases ha.symm.trans hk.added
      exact hk
  have houtcomes : c'.outcomes = [] := by
    have hfree : Free calls c := h.course.resolve_right fun ⟨k, hk⟩ => by cases hb.symm.trans hk.added
    cases hs with
    | insert => exact hfree.outcomes
    | _ => cases hb.symm.trans ha
  rw [hwon.stored, houtcomes]
  rfl

/-! All calls come to their ends -/

/-- The probe of a call can land. -/
theorem Kept.exists_over (h : Kept config calls limit c) (hp : c.place i = .probing key) :
    ∃ c', Steps calls c c' ∧ c'.place = c.place ∧ c'.service.watch.isOver key = true := by
  have hwins := (h.won (i := i) (by rw [hp]; rintro ⟨⟩) (by rw [hp]; rintro ⟨⟩)).wins
  rw [hp] at hwins
  cases hwins with
  | @flying _ f _ _ _ hr =>
    let passed : Service := { c.service with watch := { c.service.watch with
      now := max c.service.watch.now f.landing } }
    have hpass : Step calls c { c with service := passed } := .other (.pass (Nat.le_max_left _ _))
    have hdue : Round.landed? passed.watch.now [f] = some (f, []) := if_pos (Nat.le_max_right _ _)
    have hland : Step calls { c with service := passed } _ := .land (r := { flights := [f] }) hr hdue
    refine ⟨_, .tail (.single hpass) hland, rfl, ?_⟩
    have hkept := (h.step hpass).step hland
    rw [Watch.isOver, hkept.regular.distinct.round?_of_mem (Watch.mem_landed hr)]
    rfl
  | landed _ _ _ hr =>
    refine ⟨c, .refl, rfl, ?_⟩
    rw [Watch.isOver, h.regular.distinct.round?_of_mem hr]
    rfl

/-- As long as a call hasn't returned some call can go on: the one that has the lock, or any if none has. -/
theorem Kept.exists_step (h : Kept config calls limit c) (hc : ¬ c.Complete) : ∃ c' i x, Steps calls c c' ∧
    c'.place = Function.update c.place i x ∧ x.rank < (c.place i).rank := by
  by_cases hh : ∃ i, (c.place i).Holds
  · obtain ⟨i, hi⟩ := hh
    cases hp : c.place i with
    | locked =>
      refine ⟨_, i, _, .single (.look hp), rfl, ?_⟩
      rw [hp]
      split <;> simp [Place.rank]
    | absent => exact ⟨_, i, _, .single (.insert hp), rfl, by simp [hp, Place.rank]⟩
    | taken => exact ⟨_, i, _, .single (.refuse hp), rfl, by simp [hp, Place.rank]⟩
    | inserted =>
      refine ⟨_, i, _, .single (.leave hp), rfl, ?_⟩
      rw [hp]
      split <;> simp [Place.rank]
    | waiting | unprobed | probing | done =>
      rw [hp] at hi
      exact hi.elim
  · obtain ⟨i, hi⟩ := not_forall.mp hc
    cases hp : c.place i with
    | waiting =>
      have hlock : Step calls { c with held := false } _ := .lock hp rfl fun j hj => hh ⟨j, hj⟩
      exact ⟨_, i, _, .tail (.single .give) hlock, rfl, by simp [hp, Place.rank]⟩
    | locked | absent | taken | inserted => exact (hh ⟨i, by rw [hp]; trivial⟩).elim
    | unprobed =>
      obtain ⟨e, he⟩ := h.found hp
      obtain ⟨x, hx⟩ := exists_send h.regular e
      exact ⟨_, i, _, .single (.send hp he hx), rfl, by simp [hp, Place.rank]⟩
    | probing key =>
      obtain ⟨c', hs, hplace, hover⟩ := h.exists_over hp
      have hp' : c'.place i = .probing key := by rw [hplace, hp]
      exact ⟨_, i, _, hs.tail (.finish hp' hover), congrArg (Function.update · i _) hplace, by simp [hp, Place.rank]⟩
    | done r => exact absurd ⟨r, hp⟩ hi

theorem Kept.exists_complete (h : Kept config calls limit c) : ∃ c', Steps calls c c' ∧ c'.Complete := by
  have hend : ∃ c', Relation.ReflTransGen (Steps calls) c c' ∧ c'.Complete :=
    exists_done Scene.place Place.rank (fun _ _ => Kept.steps) (fun _ => Kept.exists_step) h
  rwa [Relation.reflTransGen_eq_self] at hend

/-! One call alone -/

/-- What goes on by itself is made of steps. -/
theorem exists_step_of_flow (calls : Calls n) {done : Watch → Bool} (hf : Flow done c.service.watch w) :
    ∃ c', Step calls c c' ∧ c'.service = { c.service with watch := w } ∧ c'.place = c.place := by
  cases hf with
  | step hs =>
    rcases Watch.step_cases hs with ⟨_, _, hr, hl⟩ | hl | ⟨_, hr, hg⟩
    · obtain ⟨f, flights, hland, rfl⟩ := Watch.land_spec hl
      exact ⟨_, .land hr hland, rfl, rfl⟩
    · exact ⟨_, .other (.loop hl), rfl, rfl⟩
    · exact ⟨_, .other (.go hr hg), rfl, rfl⟩
  | pass _ _ hle => exact ⟨_, .other (.pass hle), rfl, rfl⟩

theorem exists_steps_of_flows (calls : Calls n) {done : Watch → Bool} (hf : Flows done c.service.watch w) :
    ∃ c', Steps calls c c' ∧ c'.service = { c.service with watch := w } ∧ c'.place = c.place := by
  induction hf with
  | refl => exact ⟨c, .refl, rfl, rfl⟩
  | tail _ hf ih =>
    obtain ⟨c', hs, hservice, hplace⟩ := ih
    obtain ⟨c'', hstep, hservice', hplace'⟩ := exists_step_of_flow calls (c := c') (by rwa [hservice])
    exact ⟨c'', hs.tail hstep, by rw [hservice', hservice], hplace'.trans hplace⟩

/-- A call that waits long enough finishes with what its probe has left. -/
theorem exists_finish (calls : Calls n) {ms : Nat} (hp : c.place i = .probing key)
    (hprobing : Watch.Probing key calls.id (c.service.watch.now + config.probeMs) c.service.watch)
    (hms : config.probeMs ≤ ms) : ∃ c' check a, Steps calls c c' ∧
      (c.service.watch.await (·.isOver key) ms).1.round? key = some { flights := [], checks := [check] } ∧
      check.applied = some a ∧ c'.place i = .done (.ok a.endpoint) ∧ c'.service = { c.service with
        watch := (c.service.watch.await (·.isOver key) ms).1.dropRound key } := by
  obtain ⟨check, a, ha, hround⟩ := Service.exists_landed hprobing hms
  obtain ⟨c', hs, hservice, hplace⟩ :=
    exists_steps_of_flows calls (Watch.await_flows hprobing.fit (·.isOver key) ms)
  have hp' : c'.place i = .probing key := by rw [hplace, hp]
  have hround' : c'.service.watch.round? key = some { flights := [], checks := [check] } := by
    rw [hservice]
    exact hround
  have hover : c'.service.watch.isOver key = true := by
    rw [Watch.isOver, hround']
    rfl
  refine ⟨_, check, a, hs.tail (.finish hp' hover), hround, ha, ?_, ?_⟩
  · change (c'.set i _).place i = _
    rw [Scene.place_set_self, verdict, hround', Option.getD_some, List.head?_cons, Option.bind_some, ha]
  · change { c'.service with watch := c'.service.watch.dropRound key } = _
    rw [hservice]

/-- The call of one caller. -/
def Calls.one (e : Endpoint) (hid : Blank.isAllBlank e.id = false) (hurl : checkProxyUrl e.id e.url = .ok ()) :
    Calls 1 where
  id := e.id
  endpoint _ := e
  same _ := rfl
  named := hid
  url _ := hurl

theorem step_taken (hp : c.place i = .locked) (hf : (c.service.watch.store.registry.find? calls.id).isSome = true) :
    Step calls c (c.set i .taken) := by
  have hlook : Step calls c (c.set i (if _ then _ else _)) := .look hp
  rwa [if_pos hf] at hlook

theorem step_absent (hp : c.place i = .locked) (hf : c.service.watch.store.registry.find? calls.id = none) :
    Step calls c (c.set i .absent) := by
  have hlook : Step calls c (c.set i (if _ then _ else _)) := .look hp
  rwa [hf] at hlook

/-- A call with no other caller at work puts its endpoint in if the id is free. -/
theorem exists_inserted (hid : Blank.isAllBlank e.id = false) (hurl : checkProxyUrl e.id e.url = .ok ())
    (ha : s.watch.store.registry.find? e.id = none) : ∃ c, Steps (.one e hid hurl) (.start s 1) c ∧
      c.place 0 = .inserted (s.change (.upsert e.resetHealth)).2 ∧
      c.service = (s.change (.upsert e.resetHealth)).1 := by
  have hlock : Step (.one e hid hurl) (.start s 1) ((Scene.start s 1).set 0 .locked) := .lock rfl rfl fun _ => id
  have habsent : Step (.one e hid hurl) ((Scene.start s 1).set 0 .locked) _ := step_absent Scene.place_set_self ha
  exact ⟨_, .tail (.tail (.single hlock) habsent) (.insert (i := 0) Scene.place_set_self), rfl, rfl⟩

/-- A call with no other caller at work comes to what the service makes of it. -/
theorem steps_of_add (h : s.Regular config) (hid : Blank.isAllBlank e.id = false)
    (hurl : checkProxyUrl e.id e.url = .ok ()) : ∃ c, Steps (.one e hid hurl) (.start s 1) c ∧
      c.place 0 = .done (s.add e).2 ∧ c.service = (s.add e).1 := by
  cases hf : s.watch.store.registry.find? e.id with
  | some x =>
    have hlock : Step (.one e hid hurl) (.start s 1) ((Scene.start s 1).set 0 .locked) := .lock rfl rfl fun _ => id
    have htaken : Step (.one e hid hurl) ((Scene.start s 1).set 0 .locked) _ :=
      step_taken Scene.place_set_self (Option.isSome_iff_exists.mpr ⟨x, hf⟩)
    have hadd : s.add e = (s, .error (.endpointExists e.id)) := by
      simp only [Service.add, hid, hurl, hf, Bool.false_eq_true, if_false, Option.isSome_some, if_true]
    rw [hadd]
    exact ⟨_, .tail (.tail (.single hlock) htaken) (.refuse Scene.place_set_self), Scene.place_set_self, rfl⟩
  | none =>
    obtain ⟨c, hs, hplace, hservice⟩ := exists_inserted hid hurl hf
    have hleave : Step (.one e hid hurl) c (c.set 0 (if e.enabled then _ else _)) := .leave hplace
    rw [Service.add_eq hid hurl hf]
    cases he : e.enabled with
    | false =>
      rw [he, if_neg Bool.false_ne_true] at hleave
      rw [if_neg Bool.false_ne_true]
      exact ⟨_, hs.tail hleave, Scene.place_set_self, hservice⟩
    | true =>
      rw [he, if_pos rfl] at hleave
      rw [if_pos rfl, ← hservice]
      have hregular : c.service.Regular config := hservice ▸ h.meanwhile (.change _)
      have hfound : c.service.watch.store.registry.find? e.id = some e.resetHealth :=
        hservice ▸ Service.find?_change_upsert s e hf
      obtain ⟨w, key, hstart, hprobing⟩ := Service.exists_probing hregular hfound
      obtain ⟨c₁, hsend, hplace₁, hservice₁⟩ : ∃ c₁, Step (.one e hid hurl) (c.set 0 .unprobed) c₁ ∧
          c₁.place 0 = .probing key ∧ c₁.service = { c.service with watch := w } :=
        ⟨_, .send (i := 0) Scene.place_set_self (Service.get_of_find? hfound) hstart, rfl, rfl⟩
      obtain rfl : c₁.service.watch = w := congrArg Service.watch hservice₁
      obtain ⟨c₂, check, a, hfinish, hround, ha, hplace₂, hservice₂⟩ := exists_finish (.one e hid hurl) hplace₁
        hprobing (Service.probeMs_le_horizon h.valid)
      have hchecks : (c₁.service.watch.finishRound key).2.checks = [check] := by
        rw [Service.finishRound_snd]
        exact congrArg (fun r => (Option.getD r { flights := [] }).checks) hround
      have hcheck := Service.check_eq (Service.get_of_find? hfound) hstart hchecks ha
      refine ⟨c₂, ((hs.tail hleave).tail hsend).trans hfinish, ?_, ?_⟩
      · rw [hplace₂, Service.probed, hcheck]
        rfl
      · rw [hservice₂, Service.probed, hcheck, hservice₁]
        rfl

/-! All calls together -/

/-- Callers add an endpoint with the same id at once, in a service that has none with this id, while anything goes on
but a change of this endpoint by others. At any time either none has put its endpoint in, or one has. It stores what it
was given with fresh health, and this stays but for the outcomes of probes; it alone succeeds, and it sends a probe
exactly if its endpoint is enabled; the others are refused because the id is taken. All of them can always return. -/
theorem added_once (calls : Calls n) (h : Arises config s) (ha : s.watch.store.registry.find? calls.id = none) :
    (∀ c, Steps calls (.start s n) c → (Free calls c ∨ ∃ i, Settled calls s.watch.limit c i) ∧
      ∃ c', Steps calls c c' ∧ c'.Complete) ∧
    (∀ c c' i, Steps calls (.start s n) c → Step calls c c' → c.added = [] → c'.added = [i] →
      c'.service.watch.store.registry.find? calls.id = some (calls.endpoint i).resetHealth) ∧
    ∀ c, Steps calls (.start s n) c → c.Complete → 0 < n → ∃ i, Settled calls s.watch.limit c i := by
  have hkept : ∀ c, Steps calls (.start s n) c → Kept config calls s.watch.limit c :=
    fun c hs => (kept_start calls h ha).steps hs
  refine ⟨fun c hs => ⟨?_, (hkept c hs).exists_complete⟩, fun c c' i hs => (hkept c hs).stored_of_step,
    fun c hs hc hn => ?_⟩
  · exact (hkept c hs).course.imp_right fun ⟨i, hi⟩ => ⟨i, hi.settled⟩
  · rcases (hkept c hs).course with hf | ⟨i, hi⟩
    · obtain ⟨r, hr⟩ := hc ⟨0, hn⟩
      have hearly := hf.early ⟨0, hn⟩
      rw [hr] at hearly
      cases hearly
    · exact ⟨i, hi.settled⟩

/-- Two callers add different endpoints with one id: one of them succeeds. -/
theorem added_once_race : ∃ config s, ∃ calls : Calls 2, Arises config s ∧
    s.watch.store.registry.find? calls.id = none ∧ calls.endpoint 0 ≠ calls.endpoint 1 ∧
    ∃ c, Steps calls (.start s 2) c ∧ c.Complete ∧ ∃ i, Settled calls s.watch.limit c i := by
  let config : Config := { health := { probeUrl := "http://[::1]/" } }
  have hv : config.validate = .ok () := by decide +kernel
  let first : Endpoint := { id := "x", url := "http://[::1]:81", priority := 0 }
  let second : Endpoint := { id := "x", url := "http://[::1]:82", priority := 1, enabled := false }
  let calls : Calls 2 := {
    id := "x"
    endpoint := fun i => if i = 0 then first else second
    same := by decide
    named := by decide
    url := by decide +kernel }
  obtain ⟨s, hb⟩ := Service.exists_build config { clock := default } hv nofun
  have ha : s.watch.store.registry.find? calls.id = none := by
    obtain ⟨-, store, rfl, hstore⟩ := Service.build_eq_ok hb
    obtain rfl := (hstore rfl).2 rfl
    rfl
  obtain ⟨hcomplete, -, hsettled⟩ := added_once calls (.built hb) ha
  obtain ⟨c, hs, hc⟩ := (hcomplete _ .refl).2
  exact ⟨config, s, calls, .built hb, ha, by decide, c, hs, hc, hsettled c hs hc (by decide)⟩

end

end ProxyWatch.Adding
