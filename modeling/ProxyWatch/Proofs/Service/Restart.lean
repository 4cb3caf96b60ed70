import ProxyWatch.Proofs.Registry.Savable
import ProxyWatch.Proofs.Service.Soundness

/-! A service that is built again with its state file has the endpoints that it had, and the seeds that are missing. -/
namespace ProxyWatch

/-! Endpoints that are added -/

namespace Registry

variable {r : Registry} {e : Endpoint}

theorem perm_put (h : r.find? e.id = none) : (r.put e).entries.Perm (e :: r.entries) := by
  obtain ⟨xs, hr⟩ := r
  simp only [put, find?] at h ⊢
  clear hr
  induction xs with
  | nil => exact .refl _
  | cons x xs ih =>
    rw [List.find?_cons] at h
    split at h
    · cases h
    · rename_i hne
      unfold insertById
      split
      · exact .refl _
      · split
        · rename_i he
          simp [he] at hne
        · exact ((ih h).cons x).trans (.swap e x xs)

end Registry

namespace ProxySeed

/-- The record of an endpoint that has never been probed. -/
def fresh (p : ProxySeed) : Endpoint where
  id := p.id
  name := p.name
  url := p.url
  priority := p.priority
  enabled := p.enabled
  status := .unknown
  failures := 0
  lastChecked := none
  averageMs := none

/-- In a valid configuration no two seeds have the same id. -/
theorem nodup_of_validate {seen : List String} {seeds : List ProxySeed} (h : validate seen seeds = .ok ()) :
    (seeds.map (·.id)).Nodup ∧ ∀ p ∈ seeds, p.id ∉ seen := by
  induction seeds generalizing seen with
  | nil => simp
  | cons p seeds ih =>
    obtain ⟨_, _, h⟩ := exists_of_bind_ok h
    obtain ⟨_, hseen, h⟩ := exists_of_bind_ok h
    obtain ⟨_, _, h⟩ := exists_of_bind_ok h
    obtain ⟨hn, hnot⟩ := ih h
    have hp : p.id ∉ seen := by simpa using refuse_eq_ok hseen
    refine ⟨?_, ?_⟩
    · rw [List.map_cons, List.nodup_cons]
      refine ⟨fun hm => ?_, hn⟩
      obtain ⟨q, hq, he⟩ := List.mem_map.mp hm
      exact hnot q hq (by simp [he])
    · intro q hq
      rcases List.mem_cons.mp hq with rfl | hq
      · exact hp
      · exact fun hs => hnot q hq (List.mem_cons_of_mem _ hs)

end ProxySeed

theorem Config.nodup_of_validate {config : Config} (h : config.validate = .ok ()) :
    (config.proxies.map (·.id)).Nodup := by
  obtain ⟨_, _, h⟩ := exists_of_bind_ok h
  obtain ⟨_, _, h⟩ := exists_of_bind_ok h
  obtain ⟨_, _, h⟩ := exists_of_bind_ok h
  obtain ⟨_, _, h⟩ := exists_of_bind_ok h
  exact (ProxySeed.nodup_of_validate h).1

/-- From one state to the next the endpoints and what the path names stay as they are, or the endpoints are saved. -/
def Watch.Saves (path : String) (w w' : Watch) : Prop :=
  (w'.store.registry = w.store.registry ∧ ∀ n, w'.files.stat path = .ok n ↔ w.files.stat path = .ok n) ∨
  ∃ now : Timestamp, now.IsValid ∧
    StateFile.save w.files path now w'.store.registry.entries = (w'.files, .ok ())

namespace Service

/-- The seeds that are registered are saved. -/
def SeedsSaved (path : String) (w : Watch) : List ProxySeed → Prop
  | [] => True
  | p :: seeds => w.Saves path (seed w p) ∧ SeedsSaved path (seed w p) seeds

/-- A service that was built, and everything since then, with every change saved. What was in the state file before may
come from anywhere. -/
inductive Saved (config : Config) (path : String) : Service → Prop
  | built {w : Watch} {store : Store} {s : Service} (hc : w.clock.IsValid) (hb : build config none w = .ok s)
      (ho : Store.openAt w.files path = .ok store) (hs : SeedsSaved path (opened config store w) config.proxies) :
      Saved config path s
  | step {s s' : Service} (h : Saved config path s) (hs : Step s s') (hw : s.watch.Saves path s'.watch) :
      Saved config path s'

/-- The state file holds what is in memory. -/
structure Filed (path : String) (w : Watch) : Prop where
  clock_valid : w.clock.IsValid
  storable : w.store.registry.Storable
  opened : Store.openAt w.files path = .ok w.store

variable {config : Config} {path : String} {s s' : Service} {w w' : Watch} {p : ProxySeed} {seeds : List ProxySeed}

theorem Filed.path_eq (h : Filed path w) : w.store.path = some path := by
  obtain ⟨es, -, he⟩ := Store.load_of_openAt h.opened
  rw [he]

theorem Filed.next (h : Filed path w) (hc : w'.clock.IsValid) (hr : w'.store.registry.Storable)
    (hp : w'.store.path = w.store.path) (hs : w.Saves path w') : Filed path w' := by
  refine ⟨hc, hr, ?_⟩
  rcases hs with ⟨hsame, hstat⟩ | ⟨now, hn, hsave⟩
  · have hstore : w'.store = w.store := by
      rcases hw' : w'.store with ⟨r', p'⟩
      rcases hw : w.store with ⟨r, p⟩
      simp only [hw', hw] at hsame hp
      rw [hsame, hp]
    rw [Store.openAt, StateFile.load_congr hstat, hstore]
    exact h.opened
  · exact (Store.opened_of_saved hn hr (hp.trans h.path_eq) (.whole hsave)).1

/-! Seeds -/

theorem registry_seed (w : Watch) (p : ProxySeed) : (seed w p).store.registry =
    match w.store.registry.find? p.id with
    | some _ => w.store.registry
    | none => w.store.registry.put p.fresh := by
  unfold seed
  cases h : w.store.registry.find? p.id with
  | some _ => rfl
  | none =>
    have hid : w.store.registry.find? p.endpoint.id = none := h
    simp only [Store.commit, Registry.upsert, hid]
    rfl

theorem seed_of_isSome (h : (w.store.registry.find? p.id).isSome) : seed w p = w := by
  unfold seed
  split
  · rfl
  · rename_i hn
    simp [hn] at h

theorem isSome_seed (id : String) : ((seed w p).store.registry.find? id).isSome =
    (decide (p.id = id) || (w.store.registry.find? id).isSome) := by
  rw [registry_seed]
  cases h : w.store.registry.find? p.id with
  | some x =>
    by_cases hid : p.id = id
    · simp [← hid, h]
    · simp [hid]
  | none =>
    have hput : (w.store.registry.put p.fresh).find? id = if p.id = id then some p.fresh else w.store.registry.find? id :=
      Registry.find?_put
    by_cases hid : p.id = id <;> simp [hput, hid]

/-- Registering seeds adds the missing ones to the endpoints and leaves the others alone. -/
theorem perm_seeds (hn : (seeds.map (·.id)).Nodup) : (seeds.foldl seed w).store.registry.entries.Perm
    (w.store.registry.entries ++
      (seeds.filter fun p => (w.store.registry.find? p.id).isNone).map ProxySeed.fresh) := by
  induction seeds generalizing w with
  | nil => simp
  | cons p seeds ih =>
    rw [List.map_cons, List.nodup_cons] at hn
    have hrest : (seeds.filter fun q => ((seed w p).store.registry.find? q.id).isNone) =
        seeds.filter fun q => (w.store.registry.find? q.id).isNone := by
      refine List.filter_congr fun q hq => ?_
      have hne : p.id ≠ q.id := fun he => hn.1 (he ▸ List.mem_map_of_mem hq)
      have h := isSome_seed (w := w) (p := p) q.id
      simp only [hne, decide_false, Bool.false_or] at h
      rw [← Option.not_isSome, ← Option.not_isSome, h]
    refine (ih hn.2).trans ?_
    rw [hrest, registry_seed]
    cases hp : w.store.registry.find? p.id with
    | some x =>
      rw [List.filter_cons_of_neg (by simp [hp])]
    | none =>
      rw [List.filter_cons_of_pos (by simp [hp]), List.map_cons]
      exact ((Registry.perm_put (e := p.fresh) hp).append_right _).trans List.perm_middle.symm

theorem seeds_of_isSome (h : ∀ p ∈ seeds, (w.store.registry.find? p.id).isSome) : seeds.foldl seed w = w := by
  induction seeds with
  | nil => rfl
  | cons p seeds ih =>
    rw [List.foldl_cons, seed_of_isSome (h p (by simp))]
    exact ih fun q hq => h q (by simp [hq])

theorem isSome_seeds : (∀ id, (w.store.registry.find? id).isSome → ((seeds.foldl seed w).store.registry.find? id).isSome) ∧
    ∀ p ∈ seeds, ((seeds.foldl seed w).store.registry.find? p.id).isSome := by
  induction seeds generalizing w with
  | nil => simp
  | cons p seeds ih =>
    obtain ⟨hold, hnew⟩ := ih (w := seed w p)
    refine ⟨fun id h => hold id (by simp [isSome_seed, h]), fun q hq => ?_⟩
    rcases List.mem_cons.mp hq with rfl | hq
    · exact hold _ (by simp [isSome_seed])
    · exact hnew q hq

theorem Filed.seed (h : Filed path w) (hp : p.priority ≤ maxU32) (hs : w.Saves path (seed w p)) :
    Filed path (Service.seed w p) := by
  refine h.next ?_ ?_ ?_ hs
  · unfold Service.seed
    split <;> exact h.clock_valid
  · rw [registry_seed]
    split
    · exact h.storable
    · exact h.storable.put (Endpoint.storable_resetHealth (e := p.endpoint) hp)
  · unfold Service.seed
    split <;> rfl

theorem Filed.foldl_seed (h : Filed path w) (hp : ∀ p ∈ seeds, p.priority ≤ maxU32) (hs : SeedsSaved path w seeds) :
    Filed path (seeds.foldl Service.seed w) := by
  induction seeds generalizing w with
  | nil => exact h
  | cons p seeds ih => exact ih (h.seed (hp p (by simp)) hs.1) (fun q hq => hp q (by simp [hq])) hs.2

/-! Where every save succeeds -/

theorem Filed.saves_of_writes (h : Filed path s.watch) (hs : StateFile.Savable s.watch.files path) (hw : Writes s s') :
    s.watch.Saves path s'.watch ∧ StateFile.Savable s'.watch.files path := by
  rcases hw with ⟨hst, hf⟩ | ⟨r, hst, hf⟩
  · exact ⟨.inl ⟨by rw [hst], by simp [hf]⟩, hf ▸ hs⟩
  · obtain ⟨t, ht⟩ := hs s.watch.clock r.entries
    have hfiles : s'.watch.files = t := by
      rw [hf, commit, Store.commit_eq h.path_eq, ht]
    rw [hfiles]
    refine ⟨.inr ⟨s.watch.clock, h.clock_valid, ?_⟩, StateFile.savable_again ht⟩
    rw [hst, hfiles]
    exact ht

theorem writes_seed (s : Service) (p : ProxySeed) : Writes s { s with watch := seed s.watch p } := by
  unfold seed
  split
  · exact .inl ⟨rfl, rfl⟩
  · exact .inr ⟨_, rfl, rfl⟩

theorem Filed.seedsSaved (h : Filed path s.watch) (hp : ∀ p ∈ seeds, p.priority ≤ maxU32)
    (hs : StateFile.Savable s.watch.files path) :
    SeedsSaved path s.watch seeds ∧ StateFile.Savable (seeds.foldl Service.seed s.watch).files path := by
  induction seeds generalizing s with
  | nil => exact ⟨trivial, hs⟩
  | cons p seeds ih =>
    obtain ⟨hw, hs'⟩ := h.saves_of_writes hs (writes_seed s p)
    obtain ⟨hrest, hend⟩ := ih (s := { s with watch := Service.seed s.watch p }) (h.seed (hp p (by simp)) hw)
      (fun q hq => hp q (by simp [hq])) hs'
    exact ⟨⟨hw, hrest⟩, hend⟩

/-! Services that are built -/

theorem filed_opened (hc : w.clock.IsValid) {store : Store} (ho : Store.openAt w.files path = .ok store) :
    Filed path (opened config store w) := by
  obtain ⟨es, hl, rfl⟩ := Store.load_of_openAt ho
  exact ⟨hc, Registry.every_ofList (StateFile.storable_of_load hl), ho⟩

theorem build_of_openAt (hv : config.validate = .ok ()) (hp : config.statePath = some path) {store : Store}
    (ho : Store.openAt w.files path = .ok store) :
    build config none w = .ok { config, watch := config.proxies.foldl seed (opened config store w) } := by
  simp only [build, hv, hp, ho]
  rfl

theorem Saved.filed (hp : config.statePath = some path) (hb : ∀ p ∈ config.proxies, p.priority ≤ maxU32)
    (h : Saved config path s) : Filed path s.watch := by
  induction h with
  | built hc hbuild ho hs =>
    cases (build_of_openAt (build_eq_ok hbuild).1 hp ho).symm.trans hbuild
    exact (filed_opened hc ho).foldl_seed hb hs
  | step _ hs hw ih =>
    obtain ⟨-, hc, hpath⟩ := hs.setting ih.clock_valid
    exact ih.next hc (hs.every Endpoint.storable_stable ih.clock_valid ih.storable) hpath hw

theorem Saved.valid (h : Saved config path s) : config.validate = .ok () := by
  induction h with
  | built _ hb => exact (build_eq_ok hb).1
  | step _ _ _ ih => exact ih

theorem Saved.ownSteps (hp : config.statePath = some path) (hb : ∀ p ∈ config.proxies, p.priority ≤ maxU32)
    (h : Saved config path s) (hs : StateFile.Savable s.watch.files path) (ho : OwnSteps s s') :
    Saved config path s' ∧ StateFile.Savable s'.watch.files path := by
  induction ho with
  | refl => exact ⟨h, hs⟩
  | tail _ ho ih =>
    obtain ⟨hw, hs⟩ := (ih.1.filed hp hb).saves_of_writes ih.2 ho.writes
    exact ⟨.step ih.1 ho.step hw, hs⟩

/-- What a restart makes of a service. -/
structure Restartable (config : Config) (path : String) (s : Service) : Prop where
  /-- Built again with the same state file, it has the endpoints that it had, in every field, and a fresh record for each
  seed that it hadn't. If those were saved, building it once more changes nothing. -/
  again : ∀ {w : Watch}, w.clock.IsValid → (∀ n, w.files.stat path = .ok n ↔ s.watch.files.stat path = .ok n) →
    ∃ store s', Store.openAt w.files path = .ok store ∧ build config none w = .ok s' ∧
      (s'.list false).Perm (s.list false ++
        (config.proxies.filter fun p => (s.watch.store.registry.find? p.id).isNone).map ProxySeed.fresh) ∧
      (SeedsSaved path (opened config store w) config.proxies → Saved config path s' ∧
        ∀ {w' : Watch}, (∀ n, w'.files.stat path = .ok n ↔ s'.watch.files.stat path = .ok n) →
          ∃ s'', build config none w' = .ok s'' ∧ s''.list false = s'.list false ∧ s''.watch.files = w'.files)
  /-- While saves succeed every call saves what it changes. -/
  calls : StateFile.Savable s.watch.files path → ∀ cs : List Call, (∀ c ∈ cs, c.Bounded) →
    Saved config path (cs.foldl after s) ∧ StateFile.Savable (cs.foldl after s).watch.files path

theorem Filed.openAt (h : Filed path s.watch) (hf : ∀ n, w.files.stat path = .ok n ↔ s.watch.files.stat path = .ok n) :
    Store.openAt w.files path = .ok s.watch.store := by
  rw [Store.openAt, StateFile.load_congr hf]
  exact h.opened

theorem Saved.after_calls (hp : config.statePath = some path) (hb : ∀ p ∈ config.proxies, p.priority ≤ maxU32)
    (h : Saved config path s) (hs : StateFile.Savable s.watch.files path) {cs : List Call} (hc : ∀ c ∈ cs, c.Bounded) :
    Saved config path (cs.foldl after s) ∧ StateFile.Savable (cs.foldl after s).watch.files path := by
  induction cs generalizing s with
  | nil => exact ⟨h, hs⟩
  | cons c cs ih =>
    obtain ⟨h', hs'⟩ := h.ownSteps hp hb hs (s.after_own (hc c (by simp)))
    exact ih h' hs' fun x hx => hc x (by simp [hx])

/-- Where nothing is missing, building the service writes nothing. -/
theorem build_again (hp : config.statePath = some path) (hv : config.validate = .ok ()) (h : Filed path s.watch)
    (hall : ∀ p ∈ config.proxies, (s.watch.store.registry.find? p.id).isSome)
    (hf : ∀ n, w.files.stat path = .ok n ↔ s.watch.files.stat path = .ok n) :
    build config none w = .ok { config, watch := opened config s.watch.store w } := by
  rw [build_of_openAt hv hp (h.openAt hf), seeds_of_isSome (w := opened config s.watch.store w) hall]

theorem Saved.restartable (hp : config.statePath = some path) (hb : ∀ p ∈ config.proxies, p.priority ≤ maxU32)
    (h : Saved config path s) : Restartable config path s := by
  have hfiled := h.filed hp hb
  constructor
  case calls => exact fun hs cs hc => h.after_calls hp hb hs hc
  case again =>
    intro w hc hf
    have ho := hfiled.openAt hf
    have hbuild := build_of_openAt h.valid hp ho
    refine ⟨_, _, ho, hbuild, ?_, fun hs => ?_⟩
    · simp only [list, Registry.list_false]
      exact perm_seeds (w := opened config s.watch.store w) (Config.nodup_of_validate h.valid)
    · have hsaved : Saved config path _ := .built hc hbuild ho hs
      refine ⟨hsaved, fun {w'} hf' => ?_⟩
      exact ⟨_, build_again hp h.valid (hsaved.filed hp hb) isSome_seeds.2 hf', rfl, rfl⟩

/-- Where the state file can be read and saves succeed a service is built and saves its seeds. Whatever it does and is
asked for since then, with every change saved: a service built again with its state file has its endpoints, and fresh
records of the seeds that are missing. -/
theorem restart_restores (hp : config.statePath = some path) (hb : ∀ p ∈ config.proxies, p.priority ≤ maxU32) :
    (∀ {w : Watch} {store : Store}, config.validate = .ok () → w.clock.IsValid → Store.openAt w.files path = .ok store →
      StateFile.Savable w.files path →
      ∃ s, build config none w = .ok s ∧ Saved config path s ∧ StateFile.Savable s.watch.files path) ∧
    ∀ {s : Service}, Saved config path s → Restartable config path s := by
  refine ⟨fun {w store} hv hc ho hs => ?_, fun h => h.restartable hp hb⟩
  have hbuild := build_of_openAt hv hp ho
  have hfiled : Filed path (opened config store w) := filed_opened hc ho
  obtain ⟨hseeds, hend⟩ := hfiled.seedsSaved (s := { config, watch := opened config store w }) hb hs
  exact ⟨_, hbuild, .built hc hbuild ho hseeds, hend⟩

/-- A seed is removed, and comes back with the next start. -/
theorem restart_restores_removed : ∃ config s, config.statePath = some "a.json" ∧
    (∀ p ∈ config.proxies, p.priority ≤ maxU32) ∧ Saved config "a.json" s ∧ s.list false = [] ∧
      ∃ s', build config none s.watch = .ok s' ∧ (s'.list false).Perm (config.proxies.map ProxySeed.fresh) := by
  let p : ProxySeed := { id := "a", url := "socks5://a:1080" }
  let config : Config := { health := { probeUrl := "http://[::1]/" }, proxies := [p], statePath := some "a.json" }
  let w : Watch := { clock := ⟨2024, 1, 1, 0, 0, 0, 0⟩ }
  have hb : ∀ p ∈ config.proxies, p.priority ≤ maxU32 := by simp [config, p]
  have hc : w.clock.IsValid := by decide
  have hv : config.validate = .ok () := by decide +kernel
  have hload : StateFile.load w.files "a.json" = .ok [] := if_neg (by decide +kernel)
  have ho := Store.openAt_of_load hload
  have hok : (StateFile.save w.files "a.json" w.clock []).2.isOk = true := by decide +kernel
  have hsave := StateFile.savable_of_save hok
  have hp : config.statePath = some "a.json" := rfl
  obtain ⟨hbuild, hrestart⟩ := restart_restores hp hb
  obtain ⟨s, hs, hsaved, hsavable⟩ := hbuild hv hc ho hsave
  obtain ⟨hremoved, -⟩ := (hrestart hsaved).calls hsavable [.remove "a"] (by simp [Call.Bounded])
  have hnone : (s.after (.remove "a")).list false = [] := by
    cases (build_of_openAt hv rfl ho).symm.trans hs
    rfl
  have hempty : (s.after (.remove "a")).watch.store.registry.entries = [] := by
    rw [← Registry.list_false]
    exact hnone
  obtain ⟨store, s', -, hs', hperm, -⟩ := (hrestart hremoved).again (w := (s.after (.remove "a")).watch)
    (hremoved.filed rfl hb).clock_valid fun _ => Iff.rfl
  refine ⟨config, _, rfl, hb, hremoved, hnone, s', hs', ?_⟩
  simp only [List.foldl_cons, List.foldl_nil] at hperm
  rw [hnone] at hperm
  simpa [Registry.find?, hempty] using hperm

end Service
end ProxyWatch
