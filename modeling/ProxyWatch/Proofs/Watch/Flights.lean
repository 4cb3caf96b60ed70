import ProxyWatch.Proofs.Watch.Moves

/-! Probes on their way. In the history of a run each of them is traced back to the moment at which it was sent. -/
namespace ProxyWatch.Watch

/-- The states of a run, the latest first. It begins with no probes on their way. -/
inductive History : List Watch → Prop
  | first {w : Watch} (hr : w.rounds = []) : History [w]
  | next {w w' : Watch} {h : List Watch} (hh : History (w :: h)) (hm : Move w w') :
      History (w' :: w :: h)

/-- In a history, the state in which a round was sent and the ones after it. -/
structure Sent (h : List Watch) (key : Nat) (later : List Watch) (sent : Watch) : Prop where
  prefix_eq : ∃ earlier, h = later ++ sent :: earlier
  key_eq : sent.nextKey = key
  later : ∀ x ∈ later, key < x.nextKey

/-- The probes on their way are of rounds that were sent, and those that aren't dry of endpoints that were stored. -/
def Traced (h : List Watch) (w : Watch) : Prop :=
  ∀ key r, (key, r) ∈ w.rounds → key < w.nextKey ∧
    (r.dry = false → ∀ f ∈ r.flights, ∃ later sent e, Sent h key later sent ∧
      sent.store.registry.find? f.endpoint = some e)

variable {w w' : Watch} {h later later' : List Watch} {sent sent' : Watch} {key : Nat} {r : Round}
  {es : List Endpoint} {dry : Bool}

/-- What goes on by itself carries a history on. -/
theorem History.stirs (hh : History (w :: h)) (hs : Stirs w w') :
    ∃ later, History (w' :: later) ∧ w :: h <:+ w' :: later := by
  induction hs with
  | refl => exact ⟨h, hh, List.suffix_rfl⟩
  | tail _ hs ih =>
    obtain ⟨later, hlater, hsuffix⟩ := ih
    exact ⟨_, .next hlater hs.move, hsuffix.trans (List.suffix_cons ..)⟩

/-- There is only one state in which a round was sent. -/
theorem Sent.unique (hs : Sent h key later sent) (hs' : Sent h key later' sent') :
    later = later' ∧ sent = sent' := by
  obtain ⟨earlier, he⟩ := hs.prefix_eq
  obtain ⟨earlier', he'⟩ := hs'.prefix_eq
  rcases List.append_eq_append_iff.mp (he.symm.trans he') with ⟨rest, h₁, h₂⟩ | ⟨rest, h₁, h₂⟩
  · cases rest with
    | nil => simp_all
    | cons x rest =>
      obtain ⟨rfl, _⟩ := List.cons.inj h₂
      have hk := hs'.later sent (by simp [h₁])
      exact (Nat.lt_irrefl _ (hs.key_eq ▸ hk)).elim
  · cases rest with
    | nil => simp_all
    | cons x rest =>
      obtain ⟨rfl, _⟩ := List.cons.inj h₂
      have hk := hs.later sent' (by simp [h₁])
      exact (Nat.lt_irrefl _ (hs'.key_eq ▸ hk)).elim

theorem Sent.next (hs : Sent h key later sent) (hk : key < w.nextKey) :
    Sent (w :: h) key (w :: later) sent := by
  obtain ⟨earlier, rfl⟩ := hs.prefix_eq
  exact ⟨⟨earlier, rfl⟩, hs.key_eq, by simpa using ⟨hk, hs.later⟩⟩

/-! What is sent -/

@[simp] theorem endpoint_ofReply (id : String) (now : Nat) (bound timeout : Duration) (reply : Reply) :
    (Flight.ofReply id now bound timeout reply).endpoint = id := by
  unfold Flight.ofReply
  cases reply.delay with
  | none => rfl
  | some d => by_cases hd : now + d ≤ Clock.timer now bound <;> simp [hd]

theorem landing_ofReply_le (id : String) (now : Nat) (bound timeout : Duration) (reply : Reply) :
    (Flight.ofReply id now bound timeout reply).landing ≤ Clock.timer now bound := by
  unfold Flight.ofReply
  cases reply.delay with
  | none => exact Nat.le_refl _
  | some d =>
    by_cases hd : now + d ≤ Clock.timer now bound
    · simp [hd]
    · simp [hd]

theorem foldl_send (bound : Duration) (es : List Endpoint) (w : Watch) (fs : List Flight) :
    ∃ replies probes flights, es.foldl (send bound) (w, fs) =
      ({ w with replies, journal := { w.journal with probes } }, fs ++ flights) ∧
      flights.map (·.endpoint) = es.map (·.id) ∧ ∀ f ∈ flights, f.landing ≤ Clock.timer w.now bound := by
  induction es generalizing w fs with
  | nil => exact ⟨w.replies, w.journal.probes, [], by simp, rfl, by simp⟩
  | cons e es ih =>
    let f := Flight.ofReply e.id w.now bound w.checking.timeout (w.replies.next e.url).1
    obtain ⟨replies, probes, flights, hsent, hids, hlanding⟩ := ih (send bound (w, fs) e).1 (fs ++ [f])
    refine ⟨replies, probes, f :: flights, ?_, ?_, ?_⟩
    · rw [List.foldl_cons, List.append_cons]
      exact hsent
    · rw [List.map_cons, List.map_cons, hids, endpoint_ofReply]
    · exact List.forall_mem_cons.mpr ⟨landing_ofReply_le .., hlanding⟩

/-- A round that has been sent, and its key. -/
def sentRound (bound : Duration) (w : Watch) (es : List Endpoint) (dry : Bool) : Watch × Nat :=
  let s := es.foldl (send bound) (w, [])
  ({ s.1 with
    rounds := s.1.rounds ++ [(s.1.nextKey, { flights := s.2, dry := dry })]
    nextKey := s.1.nextKey + 1 }, s.1.nextKey)

theorem exists_sentRound (hs : w.startRound? es dry = some (w', key)) :
    ∃ bound, (es = [] ∨ w.checking.outerTimeout? = some bound) ∧ some (sentRound bound w es dry) = some (w', key) := by
  unfold startRound? at hs
  split at hs
  · rename_i he
    exact ⟨.zero, .inl (by simpa using he), hs⟩
  · obtain ⟨bound, hbound, hb⟩ := Option.bind_eq_some_iff.mp hs
    exact ⟨bound, .inr hbound, hb⟩

/-- What starting a round changes. Its probes land within their bound. -/
theorem startRound_shape (hs : w.startRound? es dry = some (w', key)) : ∃ bound replies probes flights,
    (es = [] ∨ w.checking.outerTimeout? = some bound) ∧ key = w.nextKey ∧
    flights.map (·.endpoint) = es.map (·.id) ∧ (∀ f ∈ flights, f.landing ≤ Clock.timer w.now bound) ∧ w' =
      { w with
        replies, journal := { w.journal with probes }
        rounds := w.rounds ++ [(w.nextKey, { flights, dry })], nextKey := w.nextKey + 1 } := by
  obtain ⟨bound, hbound, h⟩ := exists_sentRound hs
  obtain ⟨replies, probes, flights, hsent, hids, hlanding⟩ := foldl_send bound es w []
  rw [sentRound, hsent] at h
  cases h
  exact ⟨bound, replies, probes, _, hbound, rfl, hids, hlanding, rfl⟩

theorem startRound_spec (hs : w.startRound? es dry = some (w', key)) :
    w'.store = w.store ∧ w'.nextKey = w.nextKey + 1 ∧
    ∃ flights, w'.rounds = w.rounds ++ [(w.nextKey, { flights := flights, dry := dry })] ∧
      flights.map (·.endpoint) = es.map (·.id) := by
  obtain ⟨_, _, _, flights, -, -, hids, -, rfl⟩ := startRound_shape hs
  exact ⟨rfl, rfl, flights, rfl, hids⟩

/-! What lands -/

/-- What the outcome of a probe does, and its effect if there is one. -/
def outcome (w : Watch) (r : Round) (f : Flight) : Watch × Option Applied :=
  if r.dry then (w, none) else w.applyOutcome f.endpoint (.ofResult w.clock f.result)

/-- The check that a landed probe leaves in its round. -/
def checkOf (w : Watch) (r : Round) (f : Flight) : Check where
  endpoint := f.endpoint
  outcome := .ofResult w.clock f.result
  applied := (w.outcome r f).2

/-- The state after a probe has landed, with others of its round still on their way. -/
def landed (w : Watch) (key : Nat) (r : Round) (f : Flight) (flights : List Flight) : Watch :=
  { (w.outcome r f).1 with
    rounds := (w.outcome r f).1.rounds.map fun x =>
      if x.1 = key then
        (key, { r with flights := flights, checks := Round.insertCheck (w.checkOf r f) r.checks })
      else x }

theorem land_spec (hl : w.land? key r = some w') :
    ∃ f flights, Round.landed? w.now r.flights = some (f, flights) ∧ w' = w.landed key r f flights := by
  unfold land? at hl
  obtain ⟨⟨f, flights⟩, hf, rfl⟩ := Option.map_eq_some_iff.mp hl
  exact ⟨f, flights, hf, rfl⟩

theorem landed_mem {now : Nat} {fs gs : List Flight} {f : Flight}
    (hl : Round.landed? now fs = some (f, gs)) : f ∈ fs ∧ ∀ g ∈ gs, g ∈ fs := by
  induction fs generalizing gs with
  | nil => simp [Round.landed?] at hl
  | cons x xs ih =>
    unfold Round.landed? at hl
    split at hl
    · cases hl
      exact ⟨by simp, fun g hg => List.mem_cons_of_mem _ hg⟩
    · obtain ⟨⟨g, rest⟩, hr, he⟩ := Option.map_eq_some_iff.mp hl
      cases he
      obtain ⟨hf, hrest⟩ := ih hr
      refine ⟨List.mem_cons_of_mem _ hf, fun g hg => ?_⟩
      rcases List.mem_cons.mp hg with rfl | hg
      · simp
      · exact List.mem_cons_of_mem _ (hrest g hg)

theorem landed?_eq_none {now : Nat} {fs : List Flight} (hl : Round.landed? now fs = none) :
    ∀ f ∈ fs, now < f.landing := by
  induction fs with
  | nil => simp
  | cons f fs ih =>
    unfold Round.landed? at hl
    split at hl
    · cases hl
    · rename_i hf
      exact List.forall_mem_cons.mpr ⟨Nat.lt_of_not_le hf, ih (Option.map_eq_none_iff.mp hl)⟩

section
variable {id : String} {o : ProbeOutcome} {x : Endpoint}

theorem applyOutcome_of_absent (ha : w.store.registry.find? id = none) :
    w.applyOutcome id o = (w, none) := by
  simp only [applyOutcome, Store.applyOutcome, Failover.apply_of_absent ha]
  rfl

theorem applyOutcome_of_find? (hx : w.store.registry.find? id = some x) :
    (w.applyOutcome id o).2 = some (x.applied w.limit o) ∧
    (w.applyOutcome id o).1.store.registry = w.store.registry.put (x.applied w.limit o).endpoint ∧
    (w.applyOutcome id o).1.journal.events =
      w.journal.events ++ (x.applied w.limit o).events.map (w.now, ·) := by
  simp only [applyOutcome, Store.applyOutcome, Failover.apply_of_find? hx]
  exact ⟨rfl, rfl, rfl⟩

end

/-- What an outcome changes. It adds no endpoint. -/
theorem applyOutcome_shape (w : Watch) (id : String) (o : ProbeOutcome) : ∃ store files journal,
    store.registry.entries.length ≤ w.store.registry.entries.length ∧
    (w.applyOutcome id o).1 = { w with store, files, journal } := by
  cases hx : w.store.registry.find? id with
  | none => exact ⟨w.store, w.files, w.journal, Nat.le_refl _, by rw [applyOutcome_of_absent hx]⟩
  | some x =>
    have hid : x.id = id := Registry.id_of_find? hx
    simp only [applyOutcome, Store.applyOutcome, Failover.apply_of_find? hx]
    refine ⟨_, _, _, ?_, rfl⟩
    refine Registry.length_put_le ?_
    change (w.store.registry.find? x.id).isSome = true
    rw [hid, hx]
    rfl

theorem outcome_shape (w : Watch) (r : Round) (f : Flight) : ∃ store files journal,
    store.registry.entries.length ≤ w.store.registry.entries.length ∧
    (w.outcome r f).1 = { w with store, files, journal } := by
  unfold outcome
  split
  · exact ⟨w.store, w.files, w.journal, Nat.le_refl _, rfl⟩
  · exact applyOutcome_shape ..

/-! Every probe is traced back -/

theorem Traced.next {w₀ : Watch} (ht : Traced (w₀ :: h) w) (hk : w.nextKey ≤ w'.nextKey)
    (hr : ∀ key r, (key, r) ∈ w'.rounds → ∃ r', (key, r') ∈ w.rounds ∧ r'.dry = r.dry ∧
      ∀ f ∈ r.flights, f ∈ r'.flights) : Traced (w' :: w₀ :: h) w' := by
  intro key r hm
  obtain ⟨r', hm', hd, hf⟩ := hr key r hm
  obtain ⟨hlt, hs⟩ := ht key r' hm'
  have hlt' : key < w'.nextKey := Nat.lt_of_lt_of_le hlt hk
  refine ⟨hlt', fun hdry f hm => ?_⟩
  obtain ⟨later, sent, e, hsent, he⟩ := hs (hd.trans hdry) f (hf f hm)
  exact ⟨w' :: later, sent, e, hsent.next hlt', he⟩

theorem traced_start (ht : Traced (w :: h) w) (hs : w.startRound? es dry = some (w', key))
    (he : dry = false → ∀ e ∈ es, w.store.registry.find? e.id = some e) :
    Traced (w' :: w :: h) w' := by
  obtain ⟨_, hk, flights, hr, hf⟩ := startRound_spec hs
  have hlt : w.nextKey < w'.nextKey := by omega
  intro key' r hm
  rw [hr, List.mem_append, List.mem_singleton] at hm
  rcases hm with hm | hm
  · obtain ⟨hl, hold⟩ := ht key' r hm
    refine ⟨by omega, fun hd f hm => ?_⟩
    obtain ⟨later, sent, e, hsent, hfind⟩ := hold hd f hm
    exact ⟨w' :: later, sent, e, hsent.next (by omega), hfind⟩
  · cases hm
    refine ⟨hlt, fun hd f hm => ?_⟩
    have hi : f.endpoint ∈ es.map (·.id) := hf ▸ List.mem_map_of_mem hm
    obtain ⟨e, hmem, hid⟩ := List.mem_map.mp hi
    exact ⟨[w'], w, e, ⟨⟨h, rfl⟩, rfl, by simpa using hlt⟩, hid ▸ he hd e hmem⟩

theorem traced_land (ht : Traced (w :: h) w) (hr : (key, r) ∈ w.rounds)
    (hl : w.land? key r = some w') : Traced (w' :: w :: h) w' := by
  obtain ⟨f, flights, hf, rfl⟩ := land_spec hl
  obtain ⟨_, _, _, -, ho⟩ := outcome_shape w r f
  rw [landed, ho]
  refine ht.next (Nat.le_refl _) fun key' r' hm => ?_
  obtain ⟨⟨key₀, r₀⟩, hm₀, he⟩ := List.mem_map.mp hm
  simp only at he
  split at he
  · cases he
    exact ⟨r, hr, rfl, (landed_mem hf).2⟩
  · cases he
    exact ⟨_, hm₀, rfl, fun _ => id⟩

theorem traced_move (ht : Traced (w :: h) w) (hm : Move w w') : Traced (w' :: w :: h) w' := by
  cases hm with
  | start hs he => exact traced_start ht hs he
  | land hr hl => exact traced_land ht hr hl
  | drop key =>
    exact ht.next (Nat.le_refl _) fun key r hm => ⟨r, (List.mem_filter.mp hm).1, rfl, fun _ => id⟩
  | change hc => exact ht.next (Nat.le_refl _) fun key r hm => ⟨r, hm, rfl, fun _ => id⟩
  | reenable hc => exact ht.next (Nat.le_refl _) fun key r hm => ⟨r, hm, rfl, fun _ => id⟩
  | rest hs hr hk =>
    exact ht.next (Nat.le_of_eq hk.symm) fun key r hm => ⟨r, hr ▸ hm, rfl, fun _ => id⟩

theorem traced_history {hist : List Watch} (hh : History hist) : ∀ w ∈ hist.head?, Traced hist w := by
  induction hh with
  | @first w hr =>
    intro w' hw key r hm
    cases hw
    simp [hr] at hm
  | @next w w' h _ hm ih =>
    intro w₁ hw
    cases hw
    exact traced_move (ih w rfl) hm

end ProxyWatch.Watch
