import ProxyWatch.Proofs.Config.Spans
import ProxyWatch.Proofs.Watch.Settling

/-! The cycles of the health loop. Whatever the probes do and whatever else happens meanwhile, a cycle begins at every
tick and is over before the next. -/
namespace ProxyWatch

/-- A round of the health loop: when it began, and when it was over if it is. -/
structure Cycle where
  start : Nat
  stop : Option Nat := none

/-- The time between two ticks, in milliseconds. -/
def Config.tickMs (config : Config) : Nat := 1000 * config.health.intervalSeconds

/-- The time that a probe takes at most, in milliseconds. -/
def Config.probeMs (config : Config) : Nat := 1000 * config.health.timeoutSeconds + 500

namespace Watch

/-- One thing that happens while nobody ends the health loop. -/
inductive Beat (w : Watch) : Watch → Prop
  /-- A probe lands. -/
  | land {w' : Watch} {key : Nat} {r : Round} (hr : (key, r) ∈ w.rounds) (h : w.land? key r = some w') : Beat w w'
  /-- The health loop goes on. -/
  | loop {w' : Watch} (h : w.loopStep? = some w') : Beat w w'
  /-- A session goes on. -/
  | go {w' : Watch} {run : SessionRun} (hr : run ∈ w.runs) (h : w.runStep? run = some w') : Beat w w'
  /-- Another round of probes is sent. -/
  | send {w' : Watch} {es : List Endpoint} {dry : Bool} {key : Nat} (h : w.startRound? es dry = some (w', key)) :
      Beat w w'
  /-- A round that is not the loop's is forgotten. -/
  | drop (key : Nat) (h : ∀ l ∈ w.loop, l.round ≠ some key) : Beat w (w.dropRound key)
  /-- All else may change at any time: the registry, the files, the sessions, the calendar clock, the replies of the
  proxies. -/
  | change {w' : Watch} (hn : w'.now = w.now) (hr : w'.rounds = w.rounds) (hk : w'.nextKey = w.nextKey)
      (hl : w'.loop = w.loop) (hc : w'.checking = w.checking) (ht : (w'.runs.map (·.target)).Nodup) : Beat w w'
  /-- Time passes, but no further than to the next instant at which a probe lands or the loop goes on. -/
  | pass {now : Nat} (hl : w.loopStep? = none) (hle : w.now ≤ now)
      (hr : ∀ x ∈ w.rounds, ∀ f ∈ x.2.flights, now ≤ f.landing) (ht : ∀ l ∈ w.loop, l.round = none → now ≤ l.tick) :
      Beat w { w with now }

/-- The key of the loop's round. -/
def cycle? (w : Watch) : Option Nat := w.loop.bind (·.round)

/-- The cycles after something has happened, the latest first. -/
def follow (cycles : List Cycle) (w w' : Watch) : List Cycle :=
  match w.cycle?, w'.cycle?, cycles with
  | none, some _, cycles => { start := w'.now } :: cycles
  | some _, none, c :: earlier => { c with stop := some w'.now } :: earlier
  | _, _, cycles => cycles

/-- One thing happens to a program and the cycles so far. -/
def Next (x y : Watch × List Cycle) : Prop := Beat x.1 y.1 ∧ y.2 = follow x.2 x.1 y.1

/-- What may come of a program and its cycles so far, the latest first. -/
abbrev Beats : Watch × List Cycle → Watch × List Cycle → Prop := Relation.ReflTransGen Next

/-- The health loop is about to begin. -/
structure Begins (config : Config) (w : Watch) : Prop where
  checking : w.checking = config.checkOptions
  loop : w.loop = some { tick := w.now }
  distinct : Distinct w

/-- The cycles are as far apart as the ticks, and none is missing. -/
structure Punctual (start interval : Nat) (w : Watch) (cycles : List Cycle) : Prop where
  /-- Each cycle begins at its tick. -/
  begins : ∀ later c earlier, cycles = later ++ c :: earlier → c.start = start + earlier.length * interval
  /-- It is over before the next tick. -/
  ends : ∀ c ∈ cycles, ∀ t ∈ c.stop, c.start ≤ t ∧ t < c.start + interval
  /-- Only the last one may be on its way still, but not for long enough to meet the next tick. -/
  apart : ∀ later c earlier, cycles = later ++ c :: earlier → c.stop = none → later = [] ∧ w.now < c.start + interval
  past : ∀ c ∈ cycles, c.start ≤ w.now
  /-- Every tick before now has had its cycle. -/
  complete : ∀ k, start + k * interval < w.now → k < cycles.length
  goesOn : w.loop.isSome = true

variable {config : Config} {first w w' : Watch} {cycles earlier : List Cycle} {start interval bound : Nat}
  {es : List Endpoint} {dry : Bool} {key : Nat} {r : Round}

/-! What a valid configuration says of times -/

theorem tickMs_timer (hv : config.validate = .ok ()) (now : Nat) :
    Clock.timer now config.checkOptions.interval = now + config.tickMs := by
  have hday := (Config.timeout_lt_interval hv).2.2
  have hreach : (Duration.ofSeconds config.health.intervalSeconds).seconds < Clock.reach := by
    rw [Duration.seconds_ofSeconds]
    exact Nat.lt_of_le_of_lt hday (by decide)
  exact (Scenario.timer_eq hreach).trans (congrArg (now + ·) (Duration.millisUp_ofSeconds _))

theorem outerTimeout_eq (hv : config.validate = .ok ()) : ∃ d, config.checkOptions.outerTimeout? = some d ∧
    ∀ now, Clock.timer now d = now + config.probeMs := by
  obtain ⟨d, houter, hnanos, -⟩ := Config.outerTimeout_of_validate hv
  obtain ⟨-, hlt, hday⟩ := Config.timeout_lt_interval hv
  have hday : config.health.timeoutSeconds < 86400 := Nat.lt_of_lt_of_le hlt hday
  have hreach : d.nanos / 1000000000 < 2 ^ 63 - 1 := by omega
  refine ⟨d, houter, fun now => ?_⟩
  rw [Scenario.timer_eq hreach, Duration.millisUp, Config.probeMs, hnanos]
  omega

theorem probeMs_lt_tickMs (hv : config.validate = .ok ()) : config.probeMs < config.tickMs := by
  have h := Config.timeout_lt_interval hv
  simp only [Config.probeMs, Config.tickMs]
  omega

/-! One thing after another -/

/-- Where the loop is, given its cycles so far. -/
inductive Stage (start interval bound : Nat) (w : Watch) : List Cycle → Prop
  /-- It waits for its tick. -/
  | waiting {cycles : List Cycle} (hl : w.loop = some { tick := start + cycles.length * interval })
      (hnow : w.now ≤ start + cycles.length * interval) (hover : ∀ c ∈ cycles, c.stop.isSome = true) :
      Stage start interval bound w cycles
  /-- It waits for the probes of a cycle. -/
  | probing {earlier : List Cycle} {begun : Nat} (key : Nat) (hb : begun = start + earlier.length * interval)
      (hl : w.loop = some { tick := begun + interval, round := some key }) (hover : ∀ c ∈ earlier, c.stop.isSome = true)
      (hle : begun ≤ w.now) (hnow : w.now ≤ begun + bound) (hk : key < w.nextKey)
      (hland : ∀ r, (key, r) ∈ w.rounds → ∀ f ∈ r.flights, f.landing ≤ begun + bound) :
      Stage start interval bound w ({ start := begun } :: earlier)

/-- Each cycle began at its tick and was over in time. -/
def OnTime (start interval : Nat) : List Cycle → Prop
  | [] => True
  | c :: earlier => c.start = start + earlier.length * interval ∧
      (∀ t ∈ c.stop, c.start ≤ t ∧ t < c.start + interval) ∧ OnTime start interval earlier

/-- What stays true whatever happens. -/
structure Paced (config : Config) (start : Nat) (w : Watch) (cycles : List Cycle) : Prop where
  checking : w.checking = config.checkOptions
  distinct : Distinct w
  onTime : OnTime start config.tickMs cycles
  past : ∀ c ∈ cycles, c.start ≤ w.now
  stage : Stage start config.tickMs config.probeMs w cycles

theorem follow_eq (h : w'.loop = w.loop) : follow cycles w w' = cycles := by
  have hsame : w'.cycle? = w.cycle? := by rw [cycle?, h, cycle?]
  unfold follow
  rw [hsame]
  cases w.cycle? <;> rfl

theorem follow_begun (h : w.cycle? = none) (h' : w'.cycle? = some key) :
    follow cycles w w' = { start := w'.now } :: cycles := by
  unfold follow
  rw [h, h']

theorem follow_ended {c : Cycle} (h : w.cycle? = some key) (h' : w'.cycle? = none) :
    follow (c :: earlier) w w' = { c with stop := some w'.now } :: earlier := by
  unfold follow
  rw [h, h']

/-- A round starts if its probes have a bound. -/
theorem exists_startRound {d : Duration} (hd : w.checking.outerTimeout? = some d) :
    ∃ x, w.startRound? es dry = some x := by
  unfold startRound?
  split
  · exact ⟨_, rfl⟩
  · rw [hd]
    exact ⟨_, rfl⟩

/-- No round gets more probes than it was sent with. -/
def NoneAdded (w w' : Watch) : Prop := ∀ key r, key < w.nextKey → (key, r) ∈ w'.rounds →
  ∃ r', (key, r') ∈ w.rounds ∧ ∀ f ∈ r.flights, f ∈ r'.flights

theorem noneAdded_of_subset (h : w'.rounds ⊆ w.rounds) : NoneAdded w w' := fun _ r _ hm => ⟨r, h hm, fun _ => id⟩

theorem noneAdded_land (hr : (key, r) ∈ w.rounds) (h : w.land? key r = some w') : NoneAdded w w' := by
  obtain ⟨f, flights, _, _, _, checks, hf, -, rfl⟩ := land_shape h
  intro k x _ hx
  obtain ⟨⟨k₀, x₀⟩, hx₀, he⟩ := List.mem_map.mp hx
  by_cases hk : k₀ = key
  · rw [if_pos hk] at he
    cases he
    exact ⟨r, hr, (landed_mem hf).2⟩
  · rw [if_neg hk] at he
    cases he
    exact ⟨x, hx₀, fun _ => id⟩

theorem noneAdded_startRound (h : w.startRound? es dry = some (w', key)) : NoneAdded w w' := by
  obtain ⟨_, _, _, _, -, -, -, -, rfl⟩ := startRound_shape h
  intro k x hk hx
  rcases List.mem_append.mp hx with hx | hx
  · exact ⟨x, hx, fun _ => id⟩
  · cases List.mem_singleton.mp hx
    exact absurd hk (Nat.lt_irrefl _)

/-- What neither lets time pass nor has to do with the loop or the probes of its round leaves it where it is. -/
theorem Stage.frame (h : Stage start interval bound w cycles) (hl : w'.loop = w.loop) (hn : w'.now = w.now)
    (hk : w.nextKey ≤ w'.nextKey) (hr : NoneAdded w w') : Stage start interval bound w' cycles := by
  cases h with
  | waiting hwait hnow hover => exact .waiting (hl.trans hwait) (hn ▸ hnow) hover
  | probing key hb hwait hover hle hnow hkey hland =>
    have hkey' : key < w'.nextKey := Nat.lt_of_lt_of_le hkey hk
    refine .probing key hb (hl.trans hwait) hover (hn ▸ hle) (hn ▸ hnow) hkey' fun r hm f hf => ?_
    obtain ⟨r', hm', hflights⟩ := hr _ r hkey hm
    exact hland r' hm' f (hflights f hf)

/-- A tick and the next one. -/
theorem next_tick {begun : Nat} (hb : begun = start + earlier.length * interval) :
    begun + interval = start + (earlier.length + 1) * interval := by
  rw [hb, Nat.succ_mul, Nat.add_assoc]

/-- The loop waits for the next tick when the probes of its round have landed. -/
theorem Paced.ended (hv : config.validate = .ok ()) (h : Paced config start w cycles) {l : HealthLoop}
    (hl : w.loop = some l) (hr : l.round = some key) (hd : Distinct w') (hs : w' =
      { w.dropRound key with loop := some { l with round := none } }) :
    Paced config start w' (follow cycles w w') := by
  have hlt := probeMs_lt_tickMs hv
  have hcycle : w.cycle? = some key := by rw [cycle?, hl, Option.bind_some, hr]
  have hstage := h.stage
  subst hs
  cases hstage with
  | waiting hwait =>
    rw [hl] at hwait
    cases hwait
    cases hr
  | @probing earlier begun _ hb hwait hover hle hnow =>
    obtain rfl := Option.some.inj (hl.symm.trans hwait)
    obtain ⟨hstart, -, hearlier⟩ := h.onTime
    have hintime : w.now < begun + config.tickMs := by omega
    rw [follow_ended hcycle rfl]
    refine ⟨h.checking, hd, ⟨hstart, ?_, hearlier⟩, ?_, .waiting ?_ ?_ ?_⟩
    · rintro t ⟨⟩
      exact ⟨hle, hintime⟩
    · exact List.forall_mem_cons.mpr (List.forall_mem_cons.mp h.past)
    · rw [List.length_cons, ← next_tick hb]
    · rw [List.length_cons, ← next_tick hb]
      exact hintime.le
    · exact List.forall_mem_cons.mpr ⟨rfl, hover⟩

/-- A cycle begins at its tick, and its probes land before the next one. -/
theorem Paced.begun (hv : config.validate = .ok ()) (h : Paced config start w cycles) {l : HealthLoop} {w₁ : Watch}
    (hl : w.loop = some l) (hr : l.round = none) (ht : l.tick ≤ w.now) (hc : w.startCycle? = some (w₁, key))
    (hd : Distinct w') (hs : w' = { w₁ with
      loop := some { tick := HealthLoop.following l.tick w.now w.checking.interval, round := some key } }) :
    Paced config start w' (follow cycles w w') := by
  obtain ⟨d, houter, htimer⟩ := outerTimeout_eq hv
  have hcycle : w.cycle? = none := by rw [cycle?, hl, Option.bind_some, hr]
  have hstage := h.stage
  subst hs
  cases hstage with
  | probing _ _ hwait =>
    rw [hl] at hwait
    cases hwait
    cases hr
  | waiting hwait hnow hover =>
    obtain rfl := Option.some.inj (hl.symm.trans hwait)
    dsimp only at ht
    -- No time passes beyond the tick before the loop goes on, so it is never late and counts on from the tick.
    have hnow : w.now = start + cycles.length * config.tickMs := Nat.le_antisymm hnow ht
    obtain ⟨d', _, _, flights, hd', rfl, hids, hlanding, rfl⟩ := startRound_shape hc
    have htick : HealthLoop.following (start + cycles.length * config.tickMs) w.now w.checking.interval =
        w.now + config.tickMs := by
      rw [HealthLoop.following, if_neg (by omega), h.checking, tickMs_timer hv, ← hnow]
    have hland : ∀ f ∈ flights, f.landing ≤ w.now + config.probeMs := by
      intro f hf
      rcases hd' with hnone | hd'
      · rw [hnone] at hids
        rw [List.map_eq_nil_iff.mp hids] at hf
        cases hf
      · obtain rfl : d = d' := Option.some.inj (houter.symm.trans (h.checking ▸ hd'))
        exact (hlanding f hf).trans (htimer w.now).le
    have hpast : ∀ c ∈ { start := w.now } :: cycles, c.start ≤ w.now :=
      List.forall_mem_cons.mpr ⟨Nat.le_refl _, h.past⟩
    rw [follow_begun hcycle rfl]
    refine ⟨h.checking, hd, ⟨hnow, nofun, h.onTime⟩, hpast, .probing w.nextKey hnow ?_ hover (Nat.le_refl _) ?_ ?_ ?_⟩
    · exact congrArg (fun tick => some { tick, round := some w.nextKey : HealthLoop }) htick
    · exact Nat.le_add_right _ _
    · exact Nat.lt_succ_self _
    · intro r hm
      rcases List.mem_append.mp hm with hm | hm
      · exact absurd (h.distinct.fresh _ hm) (Nat.lt_irrefl _)
      · cases List.mem_singleton.mp hm
        exact hland

/-- The loop goes on at its tick, and when the probes of its round have landed. -/
theorem Paced.loopStep (hv : config.validate = .ok ()) (h : Paced config start w cycles) (hs : w.loopStep? = some w') :
    Paced config start w' (follow cycles w w') := by
  have hdistinct := h.distinct.loopStep hs
  cases loopStep_cases hs with
  | ended hl hr _ => exact h.ended hv hl hr hdistinct rfl
  | begun hl hr ht hc => exact h.begun hv hl hr ht hc hdistinct rfl
  | failed _ _ _ hc =>
    obtain ⟨d, houter, -⟩ := outerTimeout_eq hv
    obtain ⟨x, hx⟩ := exists_startRound (h.checking ▸ houter)
    cases hc.symm.trans hx

theorem exists_of_isOver_false (h : w.isOver key = false) : ∃ r, (key, r) ∈ w.rounds ∧ ∃ f, f ∈ r.flights := by
  rw [isOver, round?] at h
  cases hr : w.rounds.lookup key with
  | none => simp [hr] at h
  | some r =>
    rw [hr] at h
    obtain ⟨before, after, hsplit, -⟩ := List.lookup_eq_some_iff.mp hr
    exact ⟨r, by simp [hsplit], List.exists_mem_of_ne_nil _ (by simpa [Round.isOver] using h)⟩

/-- As long as a round is on its way its next probe keeps time from passing. -/
theorem Paced.pass (h : Paced config start w cycles) {now : Nat} (hl : w.loopStep? = none) (hle : w.now ≤ now)
    (hr : ∀ x ∈ w.rounds, ∀ f ∈ x.2.flights, now ≤ f.landing) (ht : ∀ l ∈ w.loop, l.round = none → now ≤ l.tick) :
    Paced config start { w with now } (follow cycles w { w with now }) := by
  have hfollow : follow cycles w { w with now } = cycles := follow_eq rfl
  rw [hfollow]
  refine ⟨h.checking, { h.distinct with }, h.onTime, fun c hc => (h.past c hc).trans hle, ?_⟩
  cases h.stage with
  | waiting hwait _ hover => exact .waiting hwait (ht _ hwait rfl) hover
  | probing key hb hwait hover hbegun _ hkey hland =>
    refine .probing key hb hwait hover (hbegun.trans hle) ?_ hkey hland
    obtain ⟨r, hm, f, hf⟩ := exists_of_isOver_false ((of_loopStep_none hl hwait).1 key rfl)
    exact (hr _ hm f hf).trans (hland r hm f hf)

theorem Paced.frame (h : Paced config start w cycles) (hd : Distinct w') (hl : w'.loop = w.loop) (hn : w'.now = w.now)
    (hc : w'.checking = w.checking) (hk : w.nextKey ≤ w'.nextKey) (hr : NoneAdded w w') :
    Paced config start w' (follow cycles w w') := by
  rw [follow_eq hl]
  exact ⟨hc.trans h.checking, hd, h.onTime, hn ▸ h.past, h.stage.frame hl hn hk hr⟩

theorem Paced.beat (hv : config.validate = .ok ()) (h : Paced config start w cycles) (hb : Beat w w') :
    Paced config start w' (follow cycles w w') := by
  cases hb with
  | land hr hl =>
    have hdistinct := h.distinct.land hl
    have hnone := noneAdded_land hr hl
    obtain ⟨_, _, _, _, _, _, -, -, rfl⟩ := land_shape hl
    exact h.frame hdistinct rfl rfl rfl (Nat.le_refl _) hnone
  | loop hs => exact h.loopStep hv hs
  | go _ hs =>
    have hdistinct := h.distinct.runStep hs
    obtain ⟨_, _, _, -, -, rfl⟩ := runStep_shape hs
    exact h.frame hdistinct rfl rfl rfl (Nat.le_refl _) (noneAdded_of_subset fun _ => id)
  | send hs =>
    have hdistinct := h.distinct.startRound hs
    have hnone := noneAdded_startRound hs
    obtain ⟨_, _, _, _, -, -, -, -, rfl⟩ := startRound_shape hs
    exact h.frame hdistinct rfl rfl rfl (Nat.le_succ _) hnone
  | drop key _ =>
    have hnone : NoneAdded w (w.dropRound key) := noneAdded_of_subset fun _ hx => (List.mem_filter.mp hx).1
    exact h.frame (h.distinct.dropRound key) rfl rfl rfl (Nat.le_refl _) hnone
  | change hn hr hk hl hc ht =>
    have hdistinct : Distinct w' := ⟨hr ▸ h.distinct.keys, hr ▸ hk ▸ h.distinct.fresh, ht⟩
    exact h.frame hdistinct hl hn hc hk.symm.le (noneAdded_of_subset (hr ▸ fun _ => id))
  | pass hl hle hr ht => exact h.pass hl hle hr ht

theorem paced_begins (h : Begins config first) : Paced config first.now first [] where
  checking := h.checking
  distinct := h.distinct
  onTime := trivial
  past := by simp
  stage := .waiting (by simpa using h.loop) (by simp) (by simp)

/-- Whatever happens, the loop keeps its pace. -/
theorem Paced.beats {x y : Watch × List Cycle} (hv : config.validate = .ok ()) (h : Paced config start x.1 x.2)
    (ht : Beats x y) : Paced config start y.1 y.2 := by
  induction ht with
  | refl => exact h
  | tail _ hn ih => exact hn.2 ▸ ih.beat hv hn.1

/-! What the pace comes to -/

theorem OnTime.of_append {later : List Cycle} {c : Cycle}
    (h : OnTime start interval (later ++ c :: earlier)) : OnTime start interval (c :: earlier) := by
  induction later with
  | nil => exact h
  | cons _ later ih => exact ih h.2.2

theorem Paced.punctual (hv : config.validate = .ok ()) (h : Paced config start w cycles) :
    Punctual start config.tickMs w cycles := by
  have hlt := probeMs_lt_tickMs hv
  constructor
  case begins =>
    rintro later c earlier rfl
    exact h.onTime.of_append.1
  case ends =>
    intro c hc
    obtain ⟨later, earlier, rfl⟩ := List.append_of_mem hc
    exact h.onTime.of_append.2.1
  case apart =>
    intro later c earlier hsplit hstop
    -- A cycle without an end is none of those that are over, so it is the one whose probes are on their way.
    have hopen : ∀ cs : List Cycle, (∀ x ∈ cs, x.stop.isSome = true) → c ∉ cs := by
      intro cs hcs hc
      have hsome := hcs c hc
      rw [hstop] at hsome
      cases hsome
    cases h.stage with
    | waiting _ _ hover => exact absurd (hsplit ▸ List.mem_append_right _ List.mem_cons_self) (hopen _ hover)
    | @probing _ begun _ _ _ hover _ hnow =>
      cases later with
      | nil =>
        cases hsplit
        exact ⟨rfl, show w.now < begun + config.tickMs by omega⟩
      | cons x later =>
        obtain ⟨-, rfl⟩ := List.cons.inj hsplit
        exact absurd (List.mem_append_right _ List.mem_cons_self) (hopen _ hover)
  case past => exact h.past
  case complete =>
    intro k hk
    cases h.stage with
    | waiting _ hnow => exact Nat.lt_of_mul_lt_mul_right (Nat.lt_of_add_lt_add_left (hk.trans_le hnow))
    | @probing earlier begun _ hb _ _ _ hnow =>
      have htick := next_tick hb
      have hnext : start + k * config.tickMs < start + (earlier.length + 1) * config.tickMs := by omega
      exact Nat.lt_of_mul_lt_mul_right (Nat.lt_of_add_lt_add_left hnext)
  case goesOn =>
    cases h.stage with
    | waiting hl | probing _ _ hl => rw [hl]; rfl

/-! What the program does by itself -/

theorem beat_of_step (h : w.step? = some w') : Beat w w' := by
  rcases step_cases h with ⟨_, _, hr, hl⟩ | hl | ⟨_, hr, hs⟩
  · exact .land hr hl
  · exact .loop hl
  · exact .go hr hs

theorem beat_of_rest (hs : w.step? = none) {now : Nat} (hle : w.now ≤ now) (hd : ∀ d ∈ w.due, w.now < d → now ≤ d) :
    Beat w { w with now } := by
  obtain ⟨hprobe, hloop, -⟩ := step_eq_none.mp hs
  refine .pass hloop hle (fun x hx f hf => hd _ ?_ ?_) fun l hl hr => hd _ ?_ ((of_loopStep_none hloop hl).2 hr)
  · exact List.mem_append_left _ (List.mem_append_left _ (List.mem_flatMap.mpr ⟨x, hx, List.mem_map_of_mem hf⟩))
  · exact landed?_eq_none (Option.map_eq_none_iff.mp (List.findSome?_eq_none_iff.mp hprobe x hx)) f hf
  · obtain ⟨tick, round⟩ := l
    obtain rfl : round = none := hr
    exact List.mem_append_left _ (List.mem_append_right _ (by rw [hl]; exact List.mem_singleton_self _))

theorem Beats.beat {x : Watch × List Cycle} (h : Beats x (w, cycles)) (ht : Beat w w') :
    ∃ cycles', Beats x (w', cycles') := ⟨follow cycles w w', h.tail ⟨ht, rfl⟩⟩

/-- The program goes on by itself, and with what is true however it goes on. -/
theorem Paced.lasting {Q : Watch → Prop} (hv : config.validate = .ok ()) (h : Paced config start w cycles)
    (hQ : ∀ {w w'}, Q w → Beat w w' → Q w') :
    Lasting fun w' => (∃ cycles', Beats (w, cycles) (w', cycles')) ∧ Q w' where
  distinct := fun ⟨⟨_, ht⟩, _⟩ => (h.beats hv ht).distinct
  unhurried := by
    rintro w' ⟨⟨_, ht⟩, -⟩
    have hlt := (Config.timeout_lt_interval hv).1
    have hle := (Config.timeout_lt_interval hv).2.1
    rw [Unhurried, (h.beats hv ht).checking]
    change _ < (Duration.ofSeconds config.health.intervalSeconds).millisUp
    rw [Duration.millisUp_ofSeconds, HealthLoop.tolerance]
    omega
  step := fun ⟨⟨_, ht⟩, hq⟩ hs => ⟨ht.beat (beat_of_step hs), hQ hq (beat_of_step hs)⟩
  pass := fun ⟨⟨_, ht⟩, hq⟩ hs hle hd => ⟨ht.beat (beat_of_rest hs hle hd), hQ hq (beat_of_rest hs hle hd)⟩

/-- Once it has come to one state by itself or through a call, the program can go on from there. -/
theorem Paced.andThen {w₁ w₂ : Watch} (hv : config.validate = .ok ()) (h : Paced config start w cycles)
    (h₁ : ∃ cycles₁, Beats (w, cycles) (w₁, cycles₁))
    (h₂ : ∀ cycles₁, Paced config start w₁ cycles₁ → ∃ cycles₂, Beats (w₁, cycles₁) (w₂, cycles₂)) :
    ∃ cycles₂, Beats (w, cycles) (w₂, cycles₂) := by
  obtain ⟨cycles₁, ht⟩ := h₁
  obtain ⟨cycles₂, ht₂⟩ := h₂ cycles₁ (h.beats hv ht)
  exact ⟨cycles₂, ht.trans ht₂⟩

/-- The round with this key is not the loop's, and never will be. -/
def Foreign (key : Nat) (w : Watch) : Prop := key < w.nextKey ∧ w.cycle? ≠ some key

theorem Foreign.beat (h : Foreign key w) (ht : Beat w w') : Foreign key w' := by
  cases ht with
  | land _ hl =>
    obtain ⟨_, _, _, _, _, _, -, -, rfl⟩ := land_shape hl
    exact h
  | loop hs =>
    cases loopStep_cases hs with
    | ended => exact ⟨h.1, nofun⟩
    | begun _ _ _ hc =>
      obtain ⟨_, _, _, _, -, rfl, -, -, rfl⟩ := startRound_shape hc
      refine ⟨Nat.lt_succ_of_lt h.1, fun he => ?_⟩
      exact absurd (Option.some.inj he) (Nat.ne_of_gt h.1)
    | failed => exact ⟨h.1, nofun⟩
  | go _ hs =>
    obtain ⟨_, _, _, -, -, rfl⟩ := runStep_shape hs
    exact h
  | send hs =>
    obtain ⟨_, _, _, _, -, -, -, -, rfl⟩ := startRound_shape hs
    exact ⟨Nat.lt_succ_of_lt h.1, h.2⟩
  | drop => exact h
  | change _ _ hk hl _ _ => exact ⟨hk ▸ h.1, by rw [cycle?, hl]; exact h.2⟩
  | pass => exact h

/-- The keys of rounds that are sent for callers are not those of the loop's. -/
theorem Paced.foreign (h : Paced config start w cycles) (hs : w.startRound? es dry = some (w', key)) :
    Foreign key w' := by
  obtain ⟨_, _, _, _, -, rfl, -, -, rfl⟩ := startRound_shape hs
  refine ⟨Nat.lt_succ_self _, fun he => ?_⟩
  cases h.stage with
  | waiting hl =>
    simp [cycle?, hl] at he
  | probing key _ hl _ _ _ hk =>
    simp only [cycle?, hl, Option.bind_some, Option.some.injEq] at he
    omega

/-- A caller sends a round of probes and waits for all of them. -/
theorem Paced.round (hv : config.validate = .ok ()) (h : Paced config start w cycles)
    (hs : w.startRound? es dry = some (w', key)) : ∃ cycles', Beats (w, cycles) ((w'.finishRound key).1, cycles') := by
  have hforeign := h.foreign hs
  refine h.andThen hv (Beats.beat .refl (.send hs)) fun cycles₁ h₁ => ?_
  have hlasting := h₁.lasting (Q := Foreign key) hv Foreign.beat
  obtain ⟨⟨cycles₂, ht⟩, hafter⟩ := hlasting.await ⟨⟨cycles₁, .refl⟩, hforeign⟩ (·.isOver key) horizon
  refine ht.beat (.drop key fun l hl hr => hafter.2 ?_)
  rw [cycle?, hl, Option.bind_some, hr]

end Watch
end ProxyWatch
