import ProxyWatch.Proofs.Session.Course

/-! What reports and displays say: each report fits those before it, and the displayed record is the
one that the last report is about. -/
namespace ProxyWatch

/-- A transition fits the transitions before it. It carries the number of starts up to it, so that starts are
numbered from one and every other transition has the number of the last start. -/
structure Transition.Fits (target : String) (before : List Transition) (t : Transition) : Prop where
  target_eq : t.target = target
  previous_eq : t.previous = before.getLast?.map (·.current)
  attempt_eq : t.attempt = ((before ++ [t]).map (·.current)).count .starting
  error_iff : t.error.isSome ↔ t.current = .retrying ∨ t.current = .failed
  live : ∀ b ∈ before, b.current.isTerminal = false

/-- A record is the first one, or the one that the last transition is about. -/
def SessionRecord.Agrees (first r : SessionRecord) : Option Transition → Prop
  | none => r = first
  | some t => ∃ p, t = r.transition p

/-- The last act is a report whose record isn't displayed yet. -/
def Pending (acts : List SessionAct) : Prop := ∃ e, acts.getLast? = some (.report e)

/-- The reports and displays so far of a session with record `r`, whose next report names `previous`. -/
structure Told (first r : SessionRecord) (previous : Option SessionState) (acts : List SessionAct) :
    Prop where
  fits : ∀ before t, before ++ [t] <+: transitions acts → t.Fits first.target before
  known : ∀ e, .report e ∈ acts → e.transition?.isSome
  shown : ∀ past, past <+: acts → ¬ Pending past →
    first.Agrees (displayed first past) (transitions past).getLast?
  current_eq : displayed first acts = r
  target_eq : r.target = first.target
  attempt_eq : r.attempt = ((transitions acts).map (·.current)).count .starting
  previous_eq : previous = (transitions acts).getLast?.map (·.current)
  previous_cases : previous = none ∨ previous = some r.state
  settled : ¬ Pending acts

section
variable {first r r' : SessionRecord} {p : Option SessionState} {acts : List SessionAct}
  {a : SessionAct}

theorem told_fresh (h : first.attempt = 0) : Told first first none [] where
  fits before t ht := by simp [transitions] at ht
  known e he := by simp at he
  shown past hp _ := by
    obtain rfl := List.prefix_nil.mp hp
    rfl
  current_eq := rfl
  target_eq := rfl
  attempt_eq := h
  previous_eq := rfl
  previous_cases := .inl rfl
  settled := by simp [Pending]

theorem SessionRecord.told_isSome_iff (he : r.state = .retrying ∨ r.state = .failed → r.error.isSome) :
    r.told.isSome ↔ r.state = .retrying ∨ r.state = .failed := by
  unfold SessionRecord.told
  split <;> simp_all

theorem Told.silent (h : Told first r p acts) (ha : a.Silent) : Told first r p (acts ++ [a]) := by
  have ht : transitions (acts ++ [a]) = transitions acts := by
    simp [transitions, ha.transition]
  constructor
  case fits => simpa only [ht] using h.fits
  case known =>
    intro e he
    rcases List.mem_append.mp he with he | he
    · exact h.known e he
    · exact (ha.1 e (List.mem_singleton.mp he).symm).elim
  case shown =>
    intro past hp hn
    rcases List.prefix_concat_iff.mp hp with rfl | hp
    · simpa only [ht, displayed_silent ha] using h.shown acts List.prefix_rfl h.settled
    · exact h.shown past hp hn
  case current_eq => rw [displayed_silent ha, h.current_eq]
  case target_eq => exact h.target_eq
  case attempt_eq => rw [ht, h.attempt_eq]
  case previous_eq => rw [ht, h.previous_eq]
  case previous_cases => exact h.previous_cases
  case settled =>
    rintro ⟨e, he⟩
    exact ha.1 e (by simpa using he)

/-- While the record's state is not a final one, no report is. -/
theorem Told.live (h : Told first r p acts) (hr : r.state.isTerminal = false) :
    ∀ t ∈ transitions acts, t.current.isTerminal = false := by
  intro t ht
  rcases List.eq_nil_or_concat (transitions acts) with he | ⟨before, last, he⟩
  · simp [he] at ht
  · rw [List.concat_eq_append] at he
    have hf := h.fits before last (by rw [he])
    have hp := h.previous_eq
    rw [he, List.mem_append, List.mem_singleton] at ht
    rcases ht with ht | rfl
    · exact hf.live t ht
    · rcases h.previous_cases with hc | hc <;> simp_all

/-- A session that goes into a state, reports it and displays its record keeps telling. -/
theorem Told.announcement (h : Told first r p acts) (hr : r.state.isTerminal = false)
    (ht : r'.target = r.target)
    (ha : r'.attempt = r.attempt + if r'.state = .starting then 1 else 0)
    (he : r'.state = .retrying ∨ r'.state = .failed → r'.error.isSome) :
    Told first r' (some r'.state) (acts ++ announcement p r') := by
  have hs : transitions (acts ++ ProxyWatch.announcement p r') = transitions acts ++ [r'.transition p] := by
    rw [transitions_append, transitions_announcement]
  have hc : r'.attempt = ((transitions acts ++ [r'.transition p]).map (·.current)).count .starting := by
    rw [ha, h.attempt_eq]
    simp [SessionRecord.transition, List.count_singleton]
  constructor
  case fits =>
    intro before t hb
    rw [hs] at hb
    rcases List.prefix_concat_iff.mp hb with hb | hb
    · obtain ⟨rfl, hx⟩ := List.append_inj' hb rfl
      cases hx
      exact ⟨ht.trans h.target_eq, h.previous_eq, hc, SessionRecord.told_isSome_iff he, h.live hr⟩
    · exact h.fits before t hb
  case known =>
    intro e hm
    rcases List.mem_append.mp hm with hm | hm
    · exact h.known e hm
    · simp only [ProxyWatch.announcement, List.mem_cons, SessionAct.report.injEq] at hm
      rcases hm with rfl | hm | hm <;> simp_all [Event.transition?]
  case shown =>
    intro past hp hn
    rw [ProxyWatch.announcement, List.append_cons] at hp
    rcases List.prefix_concat_iff.mp hp with rfl | hp
    · rw [← List.append_cons]
      change first.Agrees (displayed first (acts ++ ProxyWatch.announcement p r'))
        (transitions (acts ++ ProxyWatch.announcement p r')).getLast?
      rw [hs, displayed_append, displayed_announcement, List.getLast?_concat]
      exact ⟨p, rfl⟩
    · rcases List.prefix_concat_iff.mp hp with rfl | hp
      · exact (hn ⟨_, List.getLast?_concat⟩).elim
      · exact h.shown past hp hn
  case current_eq => rw [displayed_append, displayed_announcement]
  case target_eq => exact ht.trans h.target_eq
  case attempt_eq => rw [hs, hc]
  case previous_eq => simp [hs, SessionRecord.transition]
  case previous_cases => exact .inr rfl
  case settled => simp [Pending, ProxyWatch.announcement]

end
end ProxyWatch
