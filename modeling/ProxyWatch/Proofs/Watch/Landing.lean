import ProxyWatch.Proofs.Watch.Flights

/-! Where probes land. A probe lands on whatever record then has the probed id. That is the record that was probed,
unless the endpoint was deleted and inserted again in the meantime. -/
namespace ProxyWatch.Watch

/-- In one of the states the endpoint isn't stored. -/
def Gone (id : String) (states : List Watch) : Prop :=
  ∃ x ∈ states, x.store.registry.find? id = none

/-- The endpoint was deleted while its probe was on its way, and is stored anew when the probe lands. -/
def Replaced (id : String) (later : List Watch) (w : Watch) : Prop :=
  Gone id later ∧ (w.store.registry.find? id).isSome

/-- A move by which an endpoint is deleted. -/
def Deletes (id : String) (x y : Watch) : Prop :=
  Move x y ∧ ∃ e, x.store.registry.change (.delete id) = .ok (y.store.registry, e)

/-- A move by which an endpoint is inserted, as a record that is new. -/
def Inserts (id : String) (x y : Watch) : Prop :=
  Move x y ∧ x.store.registry.find? id = none ∧
    ∃ e stored, x.store.registry.change (.upsert e) = .ok (y.store.registry, stored) ∧
      y.store.registry.find? id = some e.resetHealth

/-- Among the states, the latest first, the endpoint was deleted, and after that inserted. -/
def Renewed (id : String) (states : List Watch) : Prop :=
  ∃ newer older, states = newer ++ older ∧ (∃ x, ∃ y ∈ older, Deletes id x y) ∧ ∃ x, ∃ y ∈ newer, Inserts id x y

/-- A landed probe changes no record and reports nothing, and its check says so. -/
structure Dropped (w w' : Watch) (r : Round) (f : Flight) : Prop where
  store_eq : w'.store = w.store
  files_eq : w'.files = w.files
  journal_eq : w'.journal = w.journal
  applied_eq : (w.checkOf r f).applied = none

/-- A probe of `e` lands, which was sent in an earlier state of the history. -/
structure Lands (h : List Watch) (key : Nat) (r : Round) (w w' : Watch) (f : Flight)
    (later : List Watch) (sent : Watch) (e : Endpoint) : Prop where
  mem : f ∈ r.flights
  landed : ∃ flights, w' = w.landed key r f flights
  probed : sent.store.registry.find? f.endpoint = some e
  sent : Sent (w :: h) key later sent

variable {w w' : Watch} {h later : List Watch} {key : Nat} {r : Round} {f : Flight}
  {flights : List Flight} {id : String}

/-! Deletions and insertions -/

theorem isSome_find?_applyOutcome {id' : String} {o : ProbeOutcome} :
    ((w.applyOutcome id' o).1.store.registry.find? id).isSome = (w.store.registry.find? id).isSome := by
  cases hx : w.store.registry.find? id' with
  | none => rw [applyOutcome_of_absent hx]
  | some x =>
    rw [(applyOutcome_of_find? hx).2.1]
    apply Registry.isSome_find?_put
    have hi : (x.applied w.limit o).endpoint.id = id' := (Registry.id_of_find? hx :)
    simp [hi, hx]

theorem isSome_find?_outcome :
    ((w.outcome r f).1.store.registry.find? id).isSome = (w.store.registry.find? id).isSome := by
  unfold outcome
  split
  · rfl
  · exact isSome_find?_applyOutcome

theorem isSome_find?_reenable {x : Registry × Endpoint × List Event} {reg : Registry} {id' : String}
    (h : Failover.reenable reg id' = .ok x) : (x.1.find? id).isSome = (reg.find? id).isSome := by
  cases hx : reg.find? id' with
  | none => simp [Failover.reenable_of_absent hx] at h
  | some e =>
    obtain ⟨events, he⟩ := Failover.reenable_of_find? hx
    rw [he] at h
    cases h
    apply Registry.isSome_find?_put
    have hi : (e.update e.reenableUpdate).id = id' := (Registry.id_of_find? hx :)
    simp [hi, hx]

/-- An endpoint goes only by a deletion, and comes only by an insertion, as a record that is new. -/
theorem move_cases (hm : Move w w') (id : String) :
    (w'.store.registry.find? id).isSome = (w.store.registry.find? id).isSome ∨
    (∃ x, (w.store.registry.find? id).isSome ∧
      w.store.registry.change (.delete id) = .ok (w'.store.registry, x)) ∨
    ∃ e x, w.store.registry.find? id = none ∧
      w.store.registry.change (.upsert e) = .ok (w'.store.registry, x) ∧
      w'.store.registry.find? id = some e.resetHealth := by
  cases hm with
  | start hs he => exact .inl (by rw [(startRound_spec hs).1])
  | land hr hl =>
    obtain ⟨f, flights, _, rfl⟩ := land_spec hl
    exact .inl isSome_find?_outcome
  | drop => exact .inl rfl
  | reenable hr => exact .inl (isSome_find?_reenable hr)
  | rest hs => exact .inl (by rw [hs])
  | @change c store files e hc =>
    have hc' := (Store.change_eq_ok hc).1
    rcases Registry.change_cases hc' id with h | ⟨rfl, h, _⟩ | ⟨e', rfl, _, h, hn⟩
    · exact .inl h
    · exact .inr (.inl ⟨e, h, hc'⟩)
    · exact .inr (.inr ⟨e', e, h, hc', hn⟩)

/-- What held in a state of a history and later did not was ended by a move. -/
theorem exists_ending_move {P : Watch → Prop} {first : Watch} {earlier : List Watch}
    (hh : History (later ++ first :: earlier)) (hp : P first) (hn : ∃ x ∈ later, ¬ P x) :
    ∃ x, ∃ y ∈ later, Move x y ∧ P x ∧ ¬ P y := by
  induction later with
  | nil =>
    obtain ⟨x, hx, -⟩ := hn
    cases hx
  | cons y rest ih =>
    obtain ⟨x, hist, hrest⟩ : ∃ x hist, rest ++ first :: earlier = x :: hist :=
      List.exists_cons_of_ne_nil (by simp)
    rw [List.cons_append, hrest] at hh
    cases hh with
    | next hh hm =>
      by_cases hr : ∃ x ∈ rest, ¬ P x
      · obtain ⟨a, b, hb, h⟩ := ih (hrest ▸ hh) hr
        exact ⟨a, b, List.mem_cons_of_mem _ hb, h⟩
      · have hall : ∀ x ∈ rest, P x := fun x hx => by_contra fun h => hr ⟨x, hx, h⟩
        have hx : P x := by
          cases rest with
          | nil => exact (List.cons.inj hrest).1 ▸ hp
          | cons z rest => exact (List.cons.inj hrest).1 ▸ hall z (by simp)
        obtain ⟨z, hz, hnz⟩ := hn
        rcases List.mem_cons.mp hz with rfl | hz
        · exact ⟨x, z, by simp, hm, hx, hnz⟩
        · exact absurd (hall z hz) hnz

theorem Move.deletes (hm : Move w w') (hs : (w.store.registry.find? id).isSome)
    (hn : ¬ (w'.store.registry.find? id).isSome) : Deletes id w w' := by
  rcases move_cases hm id with h | ⟨e, -, h⟩ | ⟨_, _, h, -⟩
  · exact absurd (h ▸ hs) hn
  · exact ⟨hm, e, h⟩
  · simp [h] at hs

theorem Move.inserts (hm : Move w w') (hn : w.store.registry.find? id = none)
    (hs : ¬ w'.store.registry.find? id = none) : Inserts id w w' := by
  rcases move_cases hm id with h | ⟨_, h, -⟩ | ⟨e, x, -, h, hfind⟩
  · simp [hn] at h
    exact absurd h hs
  · simp [hn] at h
  · exact ⟨hm, hn, e, x, h, hfind⟩

theorem History.of_append (hh : History (later ++ w :: h)) : History (w :: h) := by
  induction later with
  | nil => exact hh
  | cons x rest ih =>
    refine ih ?_
    cases rest <;> cases hh <;> assumption

/-- An endpoint that is replaced was deleted by a move, and inserted by a later one. -/
theorem Replaced.renewed {sent : Watch} (hh : History (w :: h)) (hs : Sent (w :: h) key later sent)
    (hstored : (sent.store.registry.find? id).isSome) (hr : Replaced id later w) : Renewed id later := by
  obtain ⟨⟨gone, hmem, hgone⟩, hw⟩ := hr
  obtain ⟨earlier, heq⟩ := hs.prefix_eq
  obtain ⟨newer, older, rfl⟩ := List.append_of_mem hmem
  rw [List.append_assoc, List.cons_append] at heq
  rw [heq] at hh
  refine ⟨newer, gone :: older, rfl, ?_, ?_⟩
  · have holder : History ((gone :: older) ++ sent :: earlier) := hh.of_append
    obtain ⟨x, y, hy, hm, hx, hny⟩ := exists_ending_move (P := fun x => (x.store.registry.find? id).isSome) holder
      hstored ⟨gone, by simp, by simp [hgone]⟩
    exact ⟨x, y, hy, hm.deletes hx hny⟩
  · -- The latest state is among the newer ones, since the endpoint is stored in it.
    have hmem : w ∈ newer := by
      cases newer with
      | nil =>
        obtain rfl := (List.cons.inj heq).1
        simp [hgone] at hw
      | cons x newer => exact (List.cons.inj heq).1 ▸ List.mem_cons_self
    obtain ⟨x, y, hy, hm, hx, hny⟩ := exists_ending_move (P := fun x => x.store.registry.find? id = none) hh
      hgone ⟨w, hmem, Option.isSome_iff_ne_none.mp hw⟩
    exact ⟨x, y, hy, hm.inserts hx hny⟩

/-! Landings -/

theorem dropped_of_absent (ha : w.store.registry.find? f.endpoint = none) :
    Dropped w (w.landed key r f flights) r f := by
  have ho : w.outcome r f = (w, none) := by
    unfold outcome
    split
    · rfl
    · exact applyOutcome_of_absent ha
  exact ⟨by simp only [landed, ho], by simp only [landed, ho], by simp only [landed, ho],
    by simp only [checkOf, ho]⟩

/-- A probe that lands on a record applies its outcome to it. -/
theorem not_dropped_of_find? {x : Endpoint} (hd : r.dry = false)
    (hx : w.store.registry.find? f.endpoint = some x) : ¬ Dropped w w' r f := by
  intro h
  have ha := h.applied_eq
  simp only [checkOf, outcome, hd, Bool.false_eq_true, if_false, (applyOutcome_of_find? hx).1] at ha
  cases ha

/-- An outcome bears on no record but the probed one exactly when the probed endpoint isn't replaced by the time
that it lands. A replaced endpoint was deleted and inserted again since the one state in which the probe was sent. -/
theorem landing_drops_stale_iff (hh : History (w :: h)) (hr : (key, r) ∈ w.rounds)
    (hd : r.dry = false) (hl : w.land? key r = some w') :
    ∃ f later sent e, Lands h key r w w' f later sent e ∧
      ((Gone f.endpoint later → Dropped w w' r f) ↔ ¬ Replaced f.endpoint later w) ∧
      (Replaced f.endpoint later w → Renewed f.endpoint later) ∧
      ∀ later' sent', Sent (w :: h) key later' sent' → later' = later ∧ sent' = sent := by
  obtain ⟨f, flights, hf, rfl⟩ := land_spec hl
  have hm := (landed_mem hf).1
  obtain ⟨_, ht⟩ := traced_history hh w rfl key r hr
  obtain ⟨later, sent, e, hs, he⟩ := ht hd f hm
  refine ⟨f, later, sent, e, ⟨hm, ⟨flights, rfl⟩, he, hs⟩, ⟨?_, ?_⟩, ?_, fun _ _ hs' => hs'.unique hs⟩
  · rintro hdrop ⟨hg, hx⟩
    obtain ⟨x, hx⟩ := Option.isSome_iff_exists.mp hx
    exact not_dropped_of_find? hd hx (hdrop hg)
  · intro hn hg
    apply dropped_of_absent
    by_contra hx
    exact hn ⟨hg, Option.isSome_iff_ne_none.mpr hx⟩
  · exact Replaced.renewed hh hs (by simp [he])

/-! A replaced endpoint -/

namespace Replacement

def probed : Endpoint := { id := "a", url := "http://old:1", priority := 0 }

def successor : Endpoint := { id := "a", url := "http://new:1", priority := 0 }

/-- The old proxy refuses after half a second. -/
def idle : Watch where
  clock := default
  store := { registry := Registry.empty.put probed }
  replies := { scripts := [("http://old:1",
    { further := some { delay := some 500, result := .error (.connectionRefused "refused") } })] }

def underway : Watch := (sentRound (.ofMillis 10500) idle [probed] false).1

def waiting : Watch := { underway with now := 100 }

def deleted : Watch := { waiting with store := {} }

def inserted : Watch := { deleted with store := { registry := Registry.empty.put successor } }

def due : Watch := { inserted with now := 500 }

def flight : Flight where
  endpoint := "a"
  landing := 500
  result := .error (.connectionRefused "refused")

def probeRound : Round := { flights := [flight] }

/-- The states before the probe lands, the latest first. -/
def past : List Watch := [inserted, deleted, waiting, underway, idle]

theorem history : History (due :: past) := by
  have hr : idle.startRound? [probed] false = some (underway, 0) := rfl
  have hs : Move idle underway := .start hr (by decide)
  have hd : Move waiting deleted := .change (c := .delete "a") rfl
  have hi : Move deleted inserted := .change (c := .upsert successor) rfl
  have hw : Move underway waiting := .rest rfl rfl rfl
  have hn : Move inserted due := .rest rfl rfl rfl
  exact .next (.next (.next (.next (.next (.first rfl) hs) hw) hd) hi) hn

theorem landing_eq : Flight.ofReply "a" 0 (.ofMillis 10500) (.ofSeconds 10)
    { delay := some 500, result := .error (.connectionRefused "refused") } = flight := by
  simp [Flight.ofReply, Clock.timer, Clock.endOr, Clock.reach, Duration.ofMillis, Duration.seconds, Duration.perSecond,
    Duration.millisUp, flight]

theorem rounds_eq : due.rounds = [(0, probeRound)] := by
  have h : due.rounds = [] ++ [(0, { flights := [] ++ [.ofReply "a" 0 (.ofMillis 10500) (.ofSeconds 10)
    (idle.replies.next "http://old:1").1] })] := rfl
  have hn : (idle.replies.next "http://old:1").1 =
      { delay := some 500, result := .error (.connectionRefused "refused") } := by
    simp [Replies.next, Replies.scriptOf, idle]
  rw [h, hn, landing_eq]
  rfl

theorem probeRound_mem : (0, probeRound) ∈ due.rounds := by simp [rounds_eq]

end Replacement

open Replacement in
/-- The refusal by the old proxy takes the new one out of use. -/
theorem replacement_not_dropped :
    History (due :: past) ∧ due.land? 0 probeRound = some (due.landed 0 probeRound flight []) ∧
      Lands past 0 probeRound due (due.landed 0 probeRound flight []) flight
        [due, inserted, deleted, waiting, underway] idle probed ∧
      Gone "a" [due, inserted, deleted, waiting, underway] ∧
      ¬ Dropped due (due.landed 0 probeRound flight []) probeRound flight ∧
      ((due.landed 0 probeRound flight []).store.registry.find? "a").map (fun e => (e.url, e.enabled)) =
        some ("http://new:1", false) := by
  have hs : Sent (due :: past) 0 [due, inserted, deleted, waiting, underway] idle :=
    ⟨⟨[], rfl⟩, rfl, by simp; decide⟩
  refine ⟨history, rfl, ⟨by simp [probeRound], ⟨[], rfl⟩, rfl, hs⟩, ⟨deleted, by simp, rfl⟩, ?_, by decide⟩
  exact not_dropped_of_find? (x := successor) rfl rfl

open Replacement in
theorem landing_drops_stale_iff_replacement :
    History (due :: past) ∧ (0, probeRound) ∈ due.rounds ∧ probeRound.dry = false ∧
      due.land? 0 probeRound = some (due.landed 0 probeRound flight []) ∧
      ∃ f later sent e, Lands past 0 probeRound due (due.landed 0 probeRound flight []) f later sent e ∧
        ((Gone f.endpoint later → Dropped due (due.landed 0 probeRound flight []) probeRound f) ↔
          ¬ Replaced f.endpoint later due) ∧
        (Replaced f.endpoint later due → Renewed f.endpoint later) ∧
        ∀ later' sent', Sent (due :: past) 0 later' sent' → later' = later ∧ sent' = sent :=
  ⟨history, probeRound_mem, rfl, rfl, landing_drops_stale_iff history probeRound_mem rfl rfl⟩

end ProxyWatch.Watch
