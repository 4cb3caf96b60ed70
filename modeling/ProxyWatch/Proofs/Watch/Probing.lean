import ProxyWatch.Proofs.Watch.Cycle
import ProxyWatch.Proofs.Watch.Flow
import ProxyWatch.Proofs.Watch.Landing

/-! The probe of one endpoint that a caller waits for. Whatever else goes on, it lands within its bound, and on an
endpoint that is stored it has an effect. -/
namespace ProxyWatch.Watch

/-- A round of one probe, on its way or landed with an effect. -/
inductive Lone (id : String) (last : Nat) : Round → Prop
  | flying {f : Flight} (hid : f.endpoint = id) (hl : f.landing ≤ last) : Lone id last { flights := [f] }
  | landed {c : Check} {a : Applied} (ha : c.applied = some a) : Lone id last { flights := [], checks := [c] }

/-- A caller waits for the probe of a stored endpoint. -/
structure Probing (key : Nat) (id : String) (last : Nat) (w : Watch) : Prop where
  fit : Fit w
  foreign : Foreign key w
  stored : (w.store.registry.find? id).isSome = true
  round : ∃ r, (key, r) ∈ w.rounds ∧ Lone id last r

variable {w w' : Watch} {key last : Nat} {id : String} {r : Round} {e : Endpoint} {done : Watch → Bool}

/-! What is found under a key -/

theorem Distinct.eq_of_mem {r' : Round} (h : Distinct w) (hr : (key, r) ∈ w.rounds) (hr' : (key, r') ∈ w.rounds) :
    r = r' :=
  congrArg Prod.snd (List.inj_on_of_nodup_map h.keys hr hr' rfl)

theorem Distinct.round?_of_mem (h : Distinct w) (hr : (key, r) ∈ w.rounds) : w.round? key = some r := by
  cases hf : w.round? key with
  | none =>
    have hne := List.lookup_eq_none_iff.mp hf _ hr
    simp at hne
  | some r' =>
    obtain ⟨before, after, hsplit, -⟩ := List.lookup_eq_some_iff.mp hf
    exact congrArg some (h.eq_of_mem (by simp [hsplit]) hr)

/-- What becomes of a caller's round in a step: it stays as it is, or the first of its probes that is due lands. -/
theorem round_step (h : Distinct w) (hf : Foreign key w) (hr : (key, r) ∈ w.rounds) (hs : w.step? = some w') :
    (key, r) ∈ w'.rounds ∨ ∃ f flights, Round.landed? w.now r.flights = some (f, flights) ∧
      (key, { r with flights, checks := Round.insertCheck (w.checkOf r f) r.checks }) ∈ w'.rounds := by
  rcases step_cases hs with ⟨k, x, hx, hl⟩ | hl | ⟨_, -, hs⟩
  · obtain ⟨f, flights, hland, rfl⟩ := land_spec hl
    obtain ⟨_, _, _, -, ho⟩ := outcome_shape w x f
    rw [landed, ho]
    by_cases hk : key = k
    · subst hk
      obtain rfl := h.eq_of_mem hr hx
      exact .inr ⟨f, flights, hland, List.mem_map.mpr ⟨_, hr, if_pos rfl⟩⟩
    · exact .inl (List.mem_map.mpr ⟨_, hr, if_neg hk⟩)
  · left
    cases loopStep_cases hl with
    | @ended l k hloop hk _ =>
      refine List.mem_filter.mpr ⟨hr, ?_⟩
      have hne : key ≠ k := fun he => hf.2 (by rw [cycle?, hloop, Option.bind_some, hk, he])
      simpa using hne
    | begun _ _ _ hc =>
      obtain ⟨_, _, _, _, -, -, -, -, rfl⟩ := startRound_shape hc
      exact List.mem_append_left _ hr
    | failed => exact hr
  · obtain ⟨_, _, _, -, -, rfl⟩ := runStep_shape hs
    exact .inl hr

/-- What goes on by itself takes no endpoint out of the registry and puts none in. -/
theorem isSome_find?_step (hs : w.step? = some w') (id : String) :
    (w'.store.registry.find? id).isSome = (w.store.registry.find? id).isSome := by
  rcases step_cases hs with ⟨_, _, -, hl⟩ | hl | ⟨_, -, hs⟩
  · obtain ⟨f, flights, -, rfl⟩ := land_spec hl
    exact isSome_find?_outcome
  · cases loopStep_cases hl with
    | ended | failed => rfl
    | begun _ _ _ hc =>
      obtain ⟨_, _, _, _, -, -, -, -, rfl⟩ := startRound_shape hc
      rfl
  · obtain ⟨_, _, _, -, -, rfl⟩ := runStep_shape hs
    rfl

/-! The wait for a probe -/

/-- A probe that lands on a stored endpoint has an effect. -/
theorem exists_applied {f : Flight} (hdry : r.dry = false) (hs : (w.store.registry.find? f.endpoint).isSome = true) :
    ∃ a, (w.checkOf r f).applied = some a := by
  obtain ⟨x, hx⟩ := Option.isSome_iff_exists.mp hs
  refine ⟨x.applied w.limit (.ofResult w.clock f.result), ?_⟩
  rw [checkOf, outcome, hdry, if_neg Bool.false_ne_true]
  exact (applyOutcome_of_find? hx).1

theorem Probing.step (h : Probing key id last w) (hs : w.step? = some w') : Probing key id last w' := by
  obtain ⟨r, hr, hlone⟩ := h.round
  refine ⟨h.fit.step hs, h.foreign.beat (beat_of_step hs), (isSome_find?_step hs id).trans h.stored, ?_⟩
  rcases round_step h.fit.distinct h.foreign hr hs with hr' | ⟨f, flights, hland, hr'⟩
  · exact ⟨r, hr', hlone⟩
  · refine ⟨_, hr', ?_⟩
    cases hlone with
    | @flying g hid hl =>
      obtain ⟨rfl, rfl⟩ : g = f ∧ flights = [] := by
        simp only [Round.landed?] at hland
        split at hland
        · cases hland
          exact ⟨rfl, rfl⟩
        · cases hland
      obtain ⟨a, ha⟩ := exists_applied (r := { flights := [g] }) rfl (hid.symm ▸ h.stored)
      exact .landed ha
    | landed => cases hland

theorem Probing.flow (h : Probing key id last w) (hf : Flow done w w') : Probing key id last w' := by
  cases hf with
  | step hs => exact h.step hs
  | pass => exact ⟨{ h.fit with distinct := { h.fit.distinct with } }, h.foreign, h.stored, h.round⟩

theorem Probing.isOver_iff (h : Probing key id last w) : w.isOver key = true ↔
    ∃ c a, c.applied = some a ∧ (key, { flights := [], checks := [c] }) ∈ w.rounds := by
  obtain ⟨r, hr, hlone⟩ := h.round
  rw [isOver, h.fit.distinct.round?_of_mem hr]
  cases hlone with
  | flying =>
    refine iff_of_false Bool.false_ne_true ?_
    rintro ⟨c, a, -, hr'⟩
    cases h.fit.distinct.eq_of_mem hr hr'
  | @landed c a ha => exact ⟨fun _ => ⟨c, a, ha, hr⟩, fun _ => rfl⟩

/-- The probe is always due in time, and once it has landed it stays so. -/
theorem probing_coming (key : Nat) (id : String) (last : Nat) :
    Coming (Probing key id last) (·.isOver key) last where
  fit := Probing.fit
  flow := Probing.flow
  due := by
    intro w h hrest hn
    obtain ⟨r, hr, hlone⟩ := h.round
    cases hlone with
    | @flying f hid hl =>
      have hprobe := (step_eq_none.mp hrest).1
      have hwait := List.findSome?_eq_none_iff.mp hprobe _ hr
      have hlt := landed?_eq_none (Option.map_eq_none_iff.mp hwait) f (List.mem_singleton_self f)
      refine ⟨f.landing, ?_, hlt, hl⟩
      refine List.mem_append_left _ (List.mem_append_left _ (List.mem_flatMap.mpr ⟨_, hr, ?_⟩))
      exact List.mem_map_of_mem (List.mem_singleton_self f)
    | @landed c a ha =>
      rw [h.isOver_iff.mpr ⟨c, a, ha, hr⟩] at hn
      cases hn
  lasts := by
    intro w w' h hd hs
    obtain ⟨c, a, ha, hr⟩ := h.isOver_iff.mp hd
    rcases round_step h.fit.distinct h.foreign hr hs with hr' | ⟨f, flights, hland, -⟩
    · exact (h.step hs).isOver_iff.mpr ⟨c, a, ha, hr'⟩
    · cases hland

end ProxyWatch.Watch
