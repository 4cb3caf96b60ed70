import ProxyWatch.Proofs.Config
import ProxyWatch.Proofs.Service.Calls
import ProxyWatch.Proofs.Service.Records

/-! The records of a service make sense in every state that it can come into, however its calls and the probes on their
way are interleaved, and also after it was opened again from its own state file. -/
namespace ProxyWatch

namespace Service

/-! Services -/

/-- What every state of a service keeps. -/
structure Kept (config : Config) (s : Service) : Prop where
  positive : 0 < config.failover.maxFailures
  limit_eq : s.watch.limit = config.failover.maxFailures
  clock_valid : s.watch.clock.IsValid
  good : s.watch.store.registry.Every (Endpoint.Good config.failover.maxFailures)

/-- What callers can rely on in the registry of a service. -/
structure Sound (config : Config) (s : Service) : Prop where
  records : ∀ e ∈ s.watch.store.registry.entries, e.Sound config.failover.maxFailures
  /-- Ids are unique, and every record is found under its own. -/
  nodup : (s.watch.store.registry.entries.map (·.id)).Nodup
  found : ∀ e ∈ s.watch.store.registry.entries, s.watch.store.registry.find? e.id = some e
  keyed : ∀ id e, s.watch.store.registry.find? id = some e → e.id = id

/-- The states that a service can come into with a configuration. -/
inductive Reachable (config : Config) : Service → Prop
  /-- The service is built, and there is no state file yet. -/
  | fresh {w : Watch} {s : Service} (hc : w.clock.IsValid)
      (hf : ∀ path ∈ config.statePath, ∀ n, w.files.stat path ≠ .ok n) (hb : build config none w = .ok s) :
      Reachable config s
  /-- The service is built, and in the state file stand records that it once had. -/
  | reopened {w : Watch} {s : Service} {path : String} {now : Timestamp} {es : List Endpoint}
      (hc : w.clock.IsValid) (hp : config.statePath = some path) (hn : now.IsValid)
      (hf : w.files.stat path = .ok (.file (StateFile.content now es))) (origin : Endpoint → Service)
      (ho : ∀ e ∈ es, Reachable config (origin e))
      (he : ∀ e ∈ es, e ∈ (origin e).watch.store.registry.entries) (hb : build config none w = .ok s) :
      Reachable config s
  | step {s s' : Service} (h : Reachable config s) (hs : Step s s') : Reachable config s'

variable {config : Config} {s s' : Service} {w : Watch} {c : Change}

/-! What happens to the records -/

variable {P : Endpoint → Prop}

theorem every_insert {e : Endpoint} (hP : Endpoint.Stable s.watch.limit P) (h : s.watch.store.registry.Every P)
    (hid : Blank.isAllBlank e.id = false) (hurl : checkProxyUrl e.id e.url = .ok ())
    (ha : s.watch.store.registry.find? e.id = none) (hp : e.priority ≤ maxU32) :
    (s.watch.store.registry.upsert e).1.Every P := by
  simp only [Registry.upsert, ha]
  exact h.put (hP.fresh hid hurl hp)

theorem every_change (h : s.watch.store.registry.Every P)
    (hc : ∀ r e, s.watch.store.registry.change c = .ok (r, e) → r.Every P) :
    (s.change c).1.watch.store.registry.Every P := by
  rcases s.change_cases c with he | ⟨r, e, hr, he⟩
  · rw [he]
    exact h
  · rw [he]
    exact hc r e hr

/-- What a record keeps, whatever happens to it, all records keep. -/
theorem Step.every (hP : Endpoint.Stable s.watch.limit P) (hc : s.watch.clock.IsValid)
    (h : s.watch.store.registry.Every P) (hs : Step s s') : s'.watch.store.registry.Every P := by
  cases hs with
  | @insert e hid hurl ha hp =>
    refine every_change h fun r x hr => ?_
    cases hr
    exact every_insert (e := e.resetHealth) hP h hid hurl ha hp
  | remove id => exact every_change h fun r e hr => h.delete hr
  | disable id => exact every_change h fun r e hr => h.modify (fun _ => hP.disabled) hr
  | @reprioritize id priority hp =>
    exact every_change h fun r e hr => h.modify (f := fun e => { e with priority }) (fun _ he => hP.reprioritized he hp) hr
  | @reenable id r e events hr =>
    change r.Every P
    cases hf : s.watch.store.registry.find? id with
    | none =>
      rw [Failover.reenable_of_absent hf] at hr
      cases hr
    | some x =>
      obtain ⟨_, he⟩ := Failover.reenable_of_find? hf
      rw [he] at hr
      cases hr
      exact h.put (hP.reenabled (h.of_find? hf))
  | start target =>
    unfold startSession
    split
    · exact h
    · exact h
  | ask target => exact h
  | @stir w hs =>
    change w.store.registry.Every P
    obtain ⟨-, -, ⟨hst, -⟩ | ⟨id, x, result, hx, he⟩⟩ := hs.store_cases
    · rw [hst]
      exact h
    · rw [(Prod.mk.inj he).1]
      exact h.put (hP.applied (h.of_find? hx) hc result)
  | around => exact h

/-- What stays in every step: the failure limit, a calendar clock that shows a time, and the path of the state file. -/
theorem Step.setting (hc : s.watch.clock.IsValid) (hs : Step s s') : s'.watch.limit = s.watch.limit ∧
    s'.watch.clock.IsValid ∧ s'.watch.store.path = s.watch.store.path := by
  have hchange : ∀ c, (s.change c).1.watch.limit = s.watch.limit ∧ (s.change c).1.watch.clock.IsValid ∧
      (s.change c).1.watch.store.path = s.watch.store.path := by
    intro c
    rcases s.change_cases c with he | ⟨_, _, _, he⟩
    · rw [he]
      exact ⟨rfl, hc, rfl⟩
    · rw [he]
      exact ⟨rfl, hc, rfl⟩
  cases hs with
  | insert | remove | disable | reprioritize => exact hchange _
  | reenable | ask => exact ⟨rfl, hc, rfl⟩
  | start target =>
    unfold startSession
    split <;> exact ⟨rfl, hc, rfl⟩
  | stir hs =>
    obtain ⟨hl, hclock, ⟨hst, -⟩ | ⟨_, _, _, -, he⟩⟩ := hs.store_cases
    · exact ⟨hl, hclock ▸ hc, congrArg Store.path hst⟩
    · exact ⟨hl, hclock ▸ hc, (congrArg Store.path (Prod.mk.inj he).1 :)⟩
  | around hclock => exact ⟨rfl, hclock, rfl⟩

theorem Kept.stable (h : Kept config s) :
    Endpoint.Stable s.watch.limit (Endpoint.Good config.failover.maxFailures) := by
  rw [h.limit_eq]
  exact Endpoint.good_stable h.positive

theorem Kept.step (h : Kept config s) (hs : Step s s') : Kept config s' := by
  obtain ⟨hl, hc, -⟩ := hs.setting h.clock_valid
  exact ⟨h.positive, hl.trans h.limit_eq, hc, hs.every h.stable h.clock_valid h.good⟩

/-! Building a service -/

/-- The surroundings of a service with its store, before the seeds are registered. -/
def opened (config : Config) (store : Store) (w : Watch) : Watch :=
  { w with
    store, checking := config.checkOptions, limit := Failover.limitOf config.failover.maxFailures
    rounds := [], loop := none, runs := [] }

theorem build_eq_ok {registry : Option Registry} (h : build config registry w = .ok s) :
    config.validate = .ok () ∧
    ∃ store, s = { config, watch := config.proxies.foldl seed (opened config store w) } ∧
      (registry = none → (∀ path ∈ config.statePath, Store.openAt w.files path = .ok store) ∧
        (config.statePath = none → store = {})) := by
  obtain ⟨_, hv, h⟩ := exists_of_bind_ok h
  refine ⟨ok_of_mapError hv, ?_⟩
  split at h
  · cases h
    exact ⟨_, rfl, by simp⟩
  · rename_i path hp _
    obtain ⟨store, hs, h⟩ := exists_of_bind_ok h
    cases h
    refine ⟨store, rfl, fun _ => ⟨fun p hm => ?_, by simp [hp]⟩⟩
    cases hp.symm.trans hm
    exact ok_of_mapError hs
  · rename_i hp _
    cases h
    exact ⟨{}, rfl, by simp [hp]⟩

/-- With a valid configuration and a state file that can be read, if any, a service is built. -/
theorem exists_build (config : Config) (w : Watch) (hv : config.validate = .ok ())
    (hs : ∀ path ∈ config.statePath, ∃ es, StateFile.load w.files path = .ok es) : ∃ s, build config none w = .ok s := by
  cases hp : config.statePath with
  | none => exact ⟨_, by simp only [build, hv, hp]; rfl⟩
  | some path =>
    obtain ⟨es, hl⟩ := hs path hp
    exact ⟨_, by simp only [build, hv, hp, Store.openAt_of_load hl]; rfl⟩

theorem Kept.seed (h : Kept config s) {p : ProxySeed}
    (hid : Blank.isAllBlank p.id = false) (hurl : checkProxyUrl p.id p.url = .ok ()) (hp : p.priority ≤ maxU32) :
    Kept config { s with watch := seed s.watch p } := by
  unfold Service.seed
  split
  · exact h
  · rename_i ha
    exact ⟨h.positive, h.limit_eq, h.clock_valid, every_insert (e := p.endpoint) h.stable h.good hid hurl ha hp⟩

/-- Registering the seeds keeps what holds of the records. -/
theorem kept_seeds {seeds : List ProxySeed} (h : Kept config { s with watch := w })
    (hs : ∀ p ∈ seeds, Blank.isAllBlank p.id = false ∧ checkProxyUrl p.id p.url = .ok ())
    (hp : ∀ p ∈ seeds, p.priority ≤ maxU32) : Kept config { s with watch := seeds.foldl seed w } := by
  induction seeds generalizing w with
  | nil => exact h
  | cons p seeds ih =>
    obtain ⟨hid, hurl⟩ := hs p (by simp)
    refine ih (h.seed hid hurl (hp p (by simp))) (fun x hx => hs x (by simp [hx])) fun x hx => hp x (by simp [hx])

theorem kept_of_build (hp : ∀ p ∈ config.proxies, p.priority ≤ maxU32) (hc : w.clock.IsValid)
    (hstore : ∀ store, (∀ path ∈ config.statePath, Store.openAt w.files path = .ok store) →
      (config.statePath = none → store = {}) → store.registry.Every (Endpoint.Good config.failover.maxFailures))
    (hb : build config none w = .ok s) : Kept config s := by
  obtain ⟨hv, store, rfl, hstate⟩ := build_eq_ok hb
  obtain ⟨hl, hs⟩ := Config.given_of_validate hv
  have hopened : Kept config { config, watch := opened config store w } :=
    ⟨hl, Nat.max_eq_left hl, hc, hstore store (hstate rfl).1 (hstate rfl).2⟩
  exact kept_seeds (s := { config, watch := opened config store w }) hopened hs hp

/-! Reachable states -/

theorem Reachable.kept (hp : ∀ p ∈ config.proxies, p.priority ≤ maxU32) (h : Reachable config s) : Kept config s := by
  induction h with
  | @fresh w s hc hf hb =>
    refine kept_of_build hp hc (fun store hopen hnone => ?_) hb
    have hempty : (Registry.ofList []).Every (Endpoint.Good config.failover.maxFailures) :=
      Registry.every_ofList (by simp)
    cases hpath : config.statePath with
    | none =>
      rw [hnone hpath]
      exact hempty
    | some path =>
      have hload := StateFile.load_of_absent (hf path hpath)
      cases (Store.openAt_of_load hload).symm.trans (hopen path hpath)
      exact hempty
  | @reopened w s path now es hc hpath hn hf origin ho he hb ih =>
    refine kept_of_build hp hc (fun store hopen _ => ?_) hb
    have hgood : ∀ e ∈ es, e.Good config.failover.maxFailures := fun e hm => (ih e hm).good e (he e hm)
    have hload := StateFile.load_of_stat hf hn fun e hm => (hgood e hm).storable
    cases (Store.openAt_of_load hload).symm.trans (hopen path hpath)
    exact Registry.every_ofList hgood
  | step _ hs ih => exact ih.step hs

theorem Kept.registry_sound (h : Kept config s) : Sound config s where
  records e he := (h.good e he).sound
  nodup := List.pairwise_map.mpr (s.watch.store.registry.ascending.imp String.ne_of_lt)
  found _ := Registry.find?_of_mem
  keyed _ _ := Registry.id_of_find?

theorem Reachable.steps (h : Reachable config s) (hs : Steps s s') : Reachable config s' := by
  induction hs with
  | refl => exact h
  | tail _ hs ih => exact .step ih hs

/-- In every state that a service can come into its records make sense, and every call leads into such a state. -/
theorem Reachable.sound (hp : ∀ p ∈ config.proxies, p.priority ≤ maxU32) (h : Reachable config s) :
    Sound config s ∧ ∀ c : Call, c.Bounded → Reachable config (s.after c) :=
  ⟨(h.kept hp).registry_sound, fun _ hc => h.steps (s.after_steps hc)⟩

/-- A service with a seed whose state file holds the seed as it was when the service was built first. -/
theorem Reachable.sound_reopened : ∃ config s, (∀ p ∈ config.proxies, p.priority ≤ maxU32) ∧ Reachable config s ∧
    Sound config s ∧ ∀ c : Call, c.Bounded → Reachable config (s.after c) := by
  let p : ProxySeed := { id := "a", url := "socks5://a:1080" }
  let config : Config := { health := { probeUrl := "http://[::1]/" }, proxies := [p], statePath := some "a.json" }
  let now : Timestamp := ⟨2024, 1, 1, 0, 0, 0, 0⟩
  let files : FileTree := ({} : FileTree).put ["a.json"] (.file (StateFile.content now [p.endpoint]))
  have hp : ∀ p ∈ config.proxies, p.priority ≤ maxU32 := by simp [config, p]
  have hn : now.IsValid := by decide
  have hv : config.validate = .ok () := by decide +kernel
  have hnone : FileTree.pathExists {} "a.json" ≠ true := by decide +kernel
  have habsent : StateFile.load {} "a.json" = .ok [] := if_neg hnone
  have hfile : files.stat "a.json" = .ok (.file (StateFile.content now [p.endpoint])) := by
    have hr : FileTree.resolve {} "a.json" = .ok ["a.json"] := by decide +kernel
    have hw : FileTree.write {} "a.json" (StateFile.content now [p.endpoint]) = .ok files := by
      rw [FileTree.write, hr]
      exact if_neg (by decide +kernel)
    exact FileTree.stat_write hw
  obtain ⟨s₀, hb₀⟩ := exists_build config { clock := now } hv fun path hm => by
    cases hm
    exact ⟨_, habsent⟩
  have h₀ : Reachable config s₀ := .fresh hn (fun path hm n h => by
    cases hm
    exact hnone (FileTree.pathExists_iff.mpr ⟨n, h⟩)) hb₀
  have hl : StateFile.load files "a.json" = .ok [p.endpoint] := StateFile.load_of_stat hfile hn fun e he => by
    rw [List.mem_singleton.mp he]
    exact ⟨by decide, by decide, by simp [p, ProxySeed.endpoint], by simp [p, ProxySeed.endpoint]⟩
  obtain ⟨s, hb⟩ := exists_build config { clock := now, files } hv fun path hm => by
    cases hm
    exact ⟨_, hl⟩
  have h : Reachable config s := .reopened hn rfl hn hfile (fun _ => s₀) (fun _ _ => h₀) (fun e he => by
    obtain ⟨-, store, rfl, hstate⟩ := build_eq_ok hb₀
    cases (Store.openAt_of_load habsent).symm.trans ((hstate rfl).1 "a.json" rfl)
    exact he) hb
  exact ⟨config, s, hp, h, Reachable.sound hp h⟩

end Service
end ProxyWatch
