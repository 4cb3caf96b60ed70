import ProxyWatch.Proofs.Service.Refusals

/-! What happens to a service while nobody changes one of its endpoints, and what probes that land make of that
endpoint. A round that a caller waits for stays as it is meanwhile. -/
namespace ProxyWatch

open Watch (Distinct Foreign)

/-! What probes make of an endpoint -/

/-- The endpoint after outcomes were applied to it, one after another. -/
def Endpoint.treated (e : Endpoint) (limit : Nat) (os : List ProbeOutcome) : Endpoint :=
  os.foldl (fun x o => (x.applied limit o).endpoint) e

namespace Endpoint

variable {e : Endpoint} {limit : Nat} {os : List ProbeOutcome} {o : ProbeOutcome}

theorem treated_append {os' : List ProbeOutcome} :
    e.treated limit (os ++ os') = (e.treated limit os).treated limit os' := List.foldl_append

/-- No outcome touches the id, the url, the name or the priority. -/
theorem fixed_treated : (e.treated limit os).fixed = e.fixed := by
  induction os generalizing e with
  | nil => rfl
  | cons o os ih => exact ih.trans fixed_update

theorem failures_applied_le :
    (e.applied limit o).endpoint.failures ≤ e.failures + if o.level = .failed then 1 else 0 := by
  unfold applied update nextUpdate
  cases o.level with
  | failed => exact Nat.min_le_left _ _
  | healthy | degraded => exact Nat.zero_le _

/-- An endpoint is disabled only by a streak as long as the limit. -/
theorem enabled_applied (h : (e.failures + if o.level = .failed then 1 else 0) < limit) :
    (e.applied limit o).endpoint.enabled = e.enabled := by
  unfold applied update nextUpdate
  cases hl : o.level with
  | failed =>
    rw [if_pos hl] at h
    have hlt : ¬ limit ≤ min (e.failures + 1) maxU32 := fun hle =>
      Nat.not_lt.mpr (hle.trans (Nat.min_le_left _ _)) h
    simp [hlt]
  | healthy | degraded => rfl

theorem enabled_treated (h : e.failures + os.countP (·.level = .failed) < limit) :
    (e.treated limit os).enabled = e.enabled := by
  induction os generalizing e with
  | nil => rfl
  | cons o os ih =>
    rw [List.countP_cons] at h
    have hle : (e.applied limit o).endpoint.failures ≤ _ := failures_applied_le
    simp only [decide_eq_true_eq] at h
    exact (ih (e := (e.applied limit o).endpoint) (by omega)).trans (enabled_applied (by omega))

end Endpoint

namespace Watch

variable {w : Watch} {key key' : Nat} {r r' : Round} {f : Flight} {flights : List Flight} {id : String} {x : Endpoint}

/-- What a probe that lands applies to an endpoint, if anything, with the key of its round. -/
def effect (w : Watch) (id : String) (key : Nat) (r : Round) (f : Flight) : List (Nat × ProbeOutcome) :=
  if f.endpoint = id ∧ (w.checkOf r f).applied.isSome then [(key, (w.checkOf r f).outcome)] else []

theorem key_of_effect : ∀ o ∈ w.effect id key r f, o.1 = key := by
  intro o ho
  unfold effect at ho
  split at ho
  · rw [List.mem_singleton.mp ho]
  · cases ho

theorem effect_of_absent (ha : w.store.registry.find? id = none) : w.effect id key r f = [] := by
  refine if_neg fun ⟨hid, hs⟩ => ?_
  rw [checkOf, outcome] at hs
  split at hs
  · cases hs
  · rw [hid, applyOutcome_of_absent ha] at hs
    cases hs

/-- What is found of an endpoint when a probe has landed. -/
theorem find?_landed (hx : w.store.registry.find? id = some x) : (w.landed key r f flights).store.registry.find? id =
    some (x.treated w.limit ((w.effect id key r f).map (·.2))) := by
  have hid : x.id = id := Registry.id_of_find? hx
  change (w.outcome r f).1.store.registry.find? id = _
  rw [effect, checkOf, outcome]
  split
  · rw [if_neg (by simp)]
    exact hx
  · by_cases hf : f.endpoint = id
    · obtain ⟨happlied, hput, -⟩ := applyOutcome_of_find? (o := .ofResult w.clock f.result) (hf ▸ hx)
      rw [happlied, if_pos ⟨hf, rfl⟩, hput]
      have happliedId : (x.applied w.limit (.ofResult w.clock f.result)).endpoint.id = id := hid
      rw [← happliedId]
      exact Registry.find?_put_self
    · rw [if_neg fun h => hf h.1]
      refine Eq.trans ?_ hx
      cases hy : w.store.registry.find? f.endpoint with
      | none => rw [applyOutcome_of_absent hy]
      | some y =>
        obtain ⟨-, hput, -⟩ := applyOutcome_of_find? (o := .ofResult w.clock f.result) hy
        rw [hput]
        refine Registry.find?_put_of_ne fun he => hf ?_
        exact (Registry.id_of_find? hy).symm.trans he

theorem find?_landed_of_absent (ha : w.store.registry.find? id = none) :
    (w.landed key r f flights).store.registry.find? id = none := by
  have hsome : ((w.landed key r f flights).store.registry.find? id).isSome =
      (w.store.registry.find? id).isSome := isSome_find?_outcome
  rw [ha] at hsome
  simpa using hsome

theorem landed_frame : (w.landed key r f flights).limit = w.limit ∧
    (w.landed key r f flights).nextKey = w.nextKey ∧ (w.landed key r f flights).cycle? = w.cycle? ∧
    (w.landed key r f flights).rounds = w.rounds.map fun x =>
      if x.1 = key then (key, { r with flights, checks := Round.insertCheck (w.checkOf r f) r.checks }) else x := by
  obtain ⟨_, _, _, -, ho⟩ := outcome_shape w r f
  rw [landed, ho]
  exact ⟨rfl, rfl, rfl, rfl⟩

/-- A probe that lands leaves the other rounds as they are. -/
theorem mem_landed_of_ne (hne : key ≠ key') :
    (key, r') ∈ (w.landed key' r f flights).rounds ↔ (key, r') ∈ w.rounds := by
  rw [landed_frame.2.2.2]
  constructor
  · intro h
    obtain ⟨⟨k, x⟩, hx, he⟩ := List.mem_map.mp h
    dsimp only at he
    split at he
    · cases he
      exact absurd rfl hne
    · exact he ▸ hx
  · exact fun h => List.mem_map.mpr ⟨_, h, if_neg hne⟩

theorem mem_landed (hr : (key, r) ∈ w.rounds) :
    (key, { r with flights, checks := Round.insertCheck (w.checkOf r f) r.checks }) ∈
      (w.landed key r f flights).rounds := by
  rw [landed_frame.2.2.2]
  exact List.mem_map.mpr ⟨_, hr, if_pos rfl⟩

end Watch

namespace Service

variable {s t : Service} {w w' : Watch} {id : String} {key : Nat}

/-- One thing that happens to a service, but for a change of one endpoint and for the landing of probes. -/
inductive Elsewhere (id : String) (s : Service) : Service → Prop
  /-- Another endpoint changes. -/
  | change {c : Change} (hne : c.endpoint ≠ id) : Elsewhere id s (s.change c).1
  /-- Another endpoint is given back to use. -/
  | reenable {other : String} {r : Registry} {e : Endpoint} {events : List Event} (hne : other ≠ id)
      (h : Failover.reenable s.watch.store.registry other = .ok (r, e, events)) :
      Elsewhere id s { s with watch := (s.commit r).watch.note events }
  /-- Others send probes, of this endpoint too. -/
  | send {w : Watch} {es : List Endpoint} {dry : Bool} {key : Nat} (h : s.watch.startRound? es dry = some (w, key))
      (hs : ∀ e ∈ es, s.watch.store.registry.find? e.id = some e) : Elsewhere id s { s with watch := w }
  | loop {w : Watch} (h : s.watch.loopStep? = some w) : Elsewhere id s { s with watch := w }
  | startLoop : Elsewhere id s s.startLoop.1
  | stopLoop : Elsewhere id s s.stopLoop
  | startSession (target : String) : Elsewhere id s (s.startSession target).1
  | go {w : Watch} {r : SessionRun} (hr : r ∈ s.watch.runs) (h : s.watch.runStep? r = some w) :
      Elsewhere id s { s with watch := w }
  | ask (target : String) : Elsewhere id s { s with watch := s.watch.modifySession target Session.stop }
  | pass {now : Nat} (hle : s.watch.now ≤ now) : Elsewhere id s { s with watch := { s.watch with now := now } }
  | around (clock : Timestamp) (files : FileTree) (replies : Replies) (launcher : Launcher) :
      Elsewhere id s { s with watch := { s.watch with
        clock := clock, files := files, replies := replies, launcher := launcher } }

theorem Elsewhere.move (h : Elsewhere id s t) : Move s t := by
  cases h with
  | change => exact .other (.change _)
  | reenable _ h => exact .other (.reenable h)
  | send h hs => exact .other (.send h hs)
  | loop h => exact .other (.loop h)
  | startLoop => exact .startLoop
  | stopLoop => exact .other .stopLoop
  | startSession target => exact .startSession target
  | go hr h => exact .other (.go hr h)
  | ask target => exact .other (.ask target)
  | pass hle => exact .other (.pass hle)
  | around clock files replies launcher => exact .other (.around clock files replies launcher)

/-- What is found of an endpoint is the same, and so are the rounds that callers wait for. -/
structure Apart (id : String) (w w' : Watch) : Prop where
  found : w'.store.registry.find? id = w.store.registry.find? id
  limit : w'.limit = w.limit
  keys : w.nextKey ≤ w'.nextKey
  foreign : ∀ {key}, Foreign key w → Foreign key w'
  rounds : ∀ {key r}, Foreign key w → ((key, r) ∈ w'.rounds ↔ (key, r) ∈ w.rounds)

theorem apart_of_rounds (hs : w'.store.registry.find? id = w.store.registry.find? id) (hl : w'.limit = w.limit)
    (hr : w'.rounds = w.rounds) (hk : w'.nextKey = w.nextKey) (hc : w'.cycle? = w.cycle?) : Apart id w w' where
  found := hs
  limit := hl
  keys := hk.ge
  foreign h := ⟨hk ▸ h.1, hc ▸ h.2⟩
  rounds _ := by rw [hr]

theorem foreign_of_none (hk : w'.nextKey = w.nextKey) (hc : w'.cycle? = none) (h : Foreign key w) : Foreign key w' := by
  refine ⟨hk ▸ h.1, ?_⟩
  rw [hc]
  exact (Option.some_ne_none key).symm

theorem apart_startRound {es : List Endpoint} {dry : Bool} (h : w.startRound? es dry = some (w', key)) :
    Apart id w w' := by
  obtain ⟨_, _, _, _, -, -, -, -, rfl⟩ := Watch.startRound_shape h
  refine ⟨rfl, rfl, Nat.le_succ _, fun h => ⟨Nat.lt_succ_of_lt h.1, h.2⟩,
    fun h => ⟨fun hr => ?_, List.mem_append_left _⟩⟩
  rcases List.mem_append.mp hr with hr | hr
  · exact hr
  · cases List.mem_singleton.mp hr
    exact absurd h.1 (Nat.lt_irrefl _)

theorem mem_dropRound_of_ne {r : Round} {key' : Nat} (hne : key ≠ key') :
    (key, r) ∈ (w.dropRound key').rounds ↔ (key, r) ∈ w.rounds := by
  simp [Watch.dropRound, List.mem_filter, hne]

theorem apart_loopStep (h : w.loopStep? = some w') : Apart id w w' := by
  cases Watch.loopStep_cases h with
  | @ended l k hl hk _ =>
    have hcycle : w.cycle? = some k := by rw [Watch.cycle?, hl, Option.bind_some, hk]
    refine ⟨rfl, rfl, Nat.le_refl _, foreign_of_none rfl rfl, fun h => mem_dropRound_of_ne fun he => ?_⟩
    exact h.2 (he ▸ hcycle)
  | begun _ _ _ hc =>
    have hapart : Apart id w _ := apart_startRound hc
    obtain ⟨_, _, _, _, -, rfl, -, -, rfl⟩ := Watch.startRound_shape hc
    refine ⟨rfl, rfl, Nat.le_succ _, fun h => ⟨Nat.lt_succ_of_lt h.1, fun he => ?_⟩, hapart.rounds⟩
    exact absurd (Option.some.inj he) (Nat.ne_of_gt h.1)
  | failed => exact ⟨rfl, rfl, Nat.le_refl _, foreign_of_none rfl rfl, fun _ => Iff.rfl⟩

theorem apart_stopLoop : Apart id s.watch s.stopLoop.watch := by
  unfold stopLoop
  split
  · rename_i k hl
    have hcycle : s.watch.cycle? = some k := by rw [Watch.cycle?, hl, Option.bind_some]
    refine ⟨rfl, rfl, Nat.le_refl _, foreign_of_none rfl rfl, fun h => mem_dropRound_of_ne fun he => ?_⟩
    exact h.2 (he ▸ hcycle)
  · exact ⟨rfl, rfl, Nat.le_refl _, foreign_of_none rfl rfl, fun _ => Iff.rfl⟩

theorem Elsewhere.apart (h : Elsewhere id s t) : Apart id s.watch t.watch := by
  cases h with
  | @change c hne =>
    rcases s.change_cases c with he | ⟨r, _, hr, he⟩
    · rw [he]
      exact apart_of_rounds rfl rfl rfl rfl rfl
    · rw [he]
      exact apart_of_rounds (Registry.find?_change_of_ne hr hne) rfl rfl rfl rfl
  | @reenable other _ _ _ hne hr =>
    refine apart_of_rounds ?_ rfl rfl rfl rfl
    cases hf : s.watch.store.registry.find? other with
    | none =>
      rw [Failover.reenable_of_absent hf] at hr
      cases hr
    | some x =>
      obtain ⟨_, hr'⟩ := Failover.reenable_of_find? hf
      cases hr.symm.trans hr'
      exact Registry.find?_put_of_ne fun he => hne ((Registry.id_of_find? hf).symm.trans he)
  | send hs => exact apart_startRound hs
  | loop hs => exact apart_loopStep hs
  | startLoop =>
    unfold Service.startLoop
    split
    · exact apart_of_rounds rfl rfl rfl rfl rfl
    · exact ⟨rfl, rfl, Nat.le_refl _, foreign_of_none rfl rfl, fun _ => Iff.rfl⟩
  | stopLoop => exact apart_stopLoop
  | startSession target =>
    obtain ⟨_, he⟩ := s.startSession_shape target
    rw [he]
    exact apart_of_rounds rfl rfl rfl rfl rfl
  | go _ hs =>
    obtain ⟨_, _, _, -, -, rfl⟩ := Watch.runStep_shape hs
    exact apart_of_rounds rfl rfl rfl rfl rfl
  | ask | pass | around => exact apart_of_rounds rfl rfl rfl rfl rfl

end Service
end ProxyWatch
