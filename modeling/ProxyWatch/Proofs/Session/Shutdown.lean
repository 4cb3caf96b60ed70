import ProxyWatch.Proofs.Session.Holding

/-! The moments after a request to stop. A session that holds no capture ends at once. One that holds a capture
asks it to end, kills it unless it ends within the grace period, and ends then. -/
namespace ProxyWatch

namespace Moment

variable {w : World} {m : Moment} {t : Nat}

/-- What the session has done once it has asked its capture to end. -/
def asked (m : Moment) : List (Nat × SessionAct) := m.log ++ [(m.now, .terminate)]

/-- What the session has done once it has killed its capture. -/
def killed (m : Moment) (k : Nat) : List (Nat × SessionAct) := m.asked ++ [(k, .kill)]

/-- The end of a grace period that begins now. -/
def graceEnd (m : Moment) : Nat := Clock.timer m.now m.session.options.stopGrace

/-- The wait for a capture that is asked to end now is not over before an instant. -/
def Waits (w : World) (m : Moment) (t : Nat) : Prop :=
  ∀ u, m.now ≤ u → u < t → (w m.asked u).exit = none

/-- The wait for a capture that is asked to end now is over at an instant. -/
structure Returns (w : World) (m : Moment) (t : Nat) (exit : Except ProcessError ExitReport) : Prop where
  begun : m.now ≤ t
  waits : Waits w m t
  exit_eq : (w m.asked t).exit = some exit

/-- A capture that is asked to end now does so within the grace period. -/
def Obeys (w : World) (m : Moment) : Prop := ∃ t r, Returns w m t (.ok r) ∧ t ≤ m.graceEnd

/-- A kill at an instant is not over before another one. -/
def KillPends (w : World) (m : Moment) (k t : Nat) : Prop :=
  ∀ u, k ≤ u → u < t → (w (m.killed k) u).killed = false

/-- A kill at an instant is over at another one. -/
structure KillReturns (w : World) (m : Moment) (k t : Nat) : Prop where
  begun : k ≤ t
  pends : KillPends w m k t
  killed_eq : (w (m.killed k) t).killed = true

/-- The capture has to be killed at an instant. -/
structure Kills (w : World) (m : Moment) (k : Nat) : Prop where
  begun : m.now ≤ k
  in_grace : k ≤ m.graceEnd
  waits : Waits w m k
  cause : (∃ e, (w m.asked k).exit = some (.error e)) ∨
    ((w m.asked k).exit = none ∧ m.graceEnd ≤ k)

theorem Kills.not_obeys {k : Nat} (h : Kills w m k) : ¬ Obeys w m := by
  rintro ⟨t, r, hr, ht⟩
  have hx := hr.exit_eq
  rcases Nat.lt_trichotomy t k with hlt | rfl | hlt
  · simp [h.waits t hr.begun hlt] at hx
  · rcases h.cause with ⟨e, hc⟩ | ⟨hc, _⟩ <;> simp [hc] at hx
  · rcases h.cause with ⟨e, hc⟩ | ⟨_, hd⟩
    · simp [hr.waits k h.begun hlt] at hc
    · omega

theorem Returns.eq {t' : Nat} {x x' : Except ProcessError ExitReport} (h : Returns w m t x)
    (h' : Returns w m t' x') : t = t' := by
  rcases Nat.lt_trichotomy t t' with hlt | rfl | hlt
  · simpa [h'.waits t h.begun hlt] using h.exit_eq
  · rfl
  · simpa [h.waits t' h'.begun hlt] using h'.exit_eq

theorem KillReturns.eq {k t' : Nat} (h : KillReturns w m k t) (h' : KillReturns w m k t') : t = t' := by
  rcases Nat.lt_trichotomy t t' with hlt | rfl | hlt
  · simpa [h'.pends t h.begun hlt] using h.killed_eq
  · rfl
  · simpa [h.pends t' h'.begun hlt] using h'.killed_eq

theorem now_le_graceEnd : m.now ≤ m.graceEnd := by
  unfold graceEnd Clock.timer Clock.endOr
  split <;> omega

end Moment

/-! Steps of a session that is to stop -/

namespace Session

variable {s : Session} {v : SessionView}

/-- Where no capture is held, the session ends at once. -/
theorem step_of_free (hs : s.stopping = true) (hp : s.phase.holds = false) (ho : s.phase ≠ .over)
    (hv : s.phase ≠ .vanished) :
    ∃ pre, (pre = [] ∨ pre = [.abandon]) ∧
      s.step v = some ((s.finish v.clock .stopped).after pre) := by
  cases h : s.phase with
  | fresh | resting _ => exact ⟨[], .inl rfl, by simp only [step, h, hs]; rfl⟩
  | launching _ => exact ⟨[.abandon], .inr rfl, by simp only [step, h, hs]; rfl⟩
  | confirming _ | running | ending _ | killing => simp [h, Phase.holds] at hp
  | vanished => exact (hv h).elim
  | _ => exact (ho h).elim

theorem step_of_held (hs : s.stopping = true) (hp : s.phase = .running ∨ ∃ t, s.phase = .confirming t) :
    s.step v = some (s.shutDown v) := by
  rcases hp with hp | ⟨_, hp⟩ <;> simp only [step, hp, hs, if_true]

end Session

namespace Moment

variable {w : World} {m m' : Moment} {t : Nat}

theorem go_of_wait (h : m.session.step (m.view w) = none) : m.go w = { m with now := m.now + 1 } := by
  simp only [go, h]

/-- The moments after a request to stop a session that holds no capture. -/
inductive Ceasing (m : Moment) : Moment → Prop
  | asked : Ceasing m m.stop
  | done {s : Session} {pre : List SessionAct} {p : Option SessionState} {r : SessionRecord} {now : Nat}
      (hp : s.phase = .over) (hr : r.state = .stopped) (ha : pre = [] ∨ pre = [.abandon])
      (hn : m.now ≤ now) :
      Ceasing m
        { session := s, log := m.log ++ (pre ++ announcement p r).map (m.now, ·), now := now }

/-- The moments after a request to stop a session that holds a capture. -/
inductive Shutting (w : World) (m : Moment) : Moment → Prop
  | asked : Shutting w m m.stop
  | ending {s : Session} {now : Nat} (hp : s.phase = .ending m.graceEnd) (hn : m.now ≤ now)
      (hd : now ≤ m.graceEnd) (hw : Waits w m now) :
      Shutting w m { session := s, log := m.asked, now := now }
  | killing {s : Session} {now k : Nat} (hp : s.phase = .killing) (hk : Kills w m k) (hn : k ≤ now)
      (hw : KillPends w m k now) :
      Shutting w m { session := s, log := m.killed k, now := now }
  | obeyed {s : Session} {now t : Nat} {x : ExitReport} {p : Option SessionState} {r : SessionRecord}
      (hp : s.phase = .over) (hr : r.state = .stopped) (hx : Returns w m t (.ok x))
      (hd : t ≤ m.graceEnd) (hn : t ≤ now) :
      Shutting w m
        { session := s, log := m.asked ++ (.release :: announcement p r).map (t, ·), now := now }
  | killed {s : Session} {now k t : Nat} {p : Option SessionState} {r : SessionRecord}
      (hp : s.phase = .over) (hr : r.state = .stopped) (hk : Kills w m k)
      (hx : KillReturns w m k t) (hn : t ≤ now) :
      Shutting w m
        { session := s, log := m.killed k ++ (.release :: announcement p r).map (t, ·), now := now }

theorem ceasing_stop (h : Ceasing m m') : Ceasing m m'.stop := by
  cases h with
  | asked => exact .asked
  | done hp hr ha hn => exact .done hp hr ha hn

theorem ceasing_go (hp : m.session.phase.holds = false) (ho : m.session.phase ≠ .over)
    (hv : m.session.phase ≠ .vanished) (h : Ceasing m m') : Ceasing m (m'.go w) := by
  cases h with
  | asked =>
    obtain ⟨pre, ha, hs⟩ := Session.step_of_free (v := m.stop.view w) (s := m.session.stop) rfl hp ho hv
    rw [go_of_step (m := m.stop) hs]
    exact .done rfl rfl ha le_rfl
  | done hp hr ha hn =>
    rw [go_of_wait (Session.step_of_done (.inl hp))]
    exact .done hp hr ha (Nat.le_succ_of_le hn)

theorem shutting_stop (h : Shutting w m m') : Shutting w m m'.stop := by
  cases h with
  | asked => exact .asked
  | ending hp hn hd hw => exact .ending hp hn hd hw
  | killing hp hk hn hw => exact .killing hp hk hn hw
  | obeyed hp hr hx hd hn => exact .obeyed hp hr hx hd hn
  | killed hp hr hk hx hn => exact .killed hp hr hk hx hn

theorem waits_self : Waits w m m.now := fun _ hu hlt => (Nat.not_lt.mpr hu hlt).elim

theorem killPends_self {k : Nat} : KillPends w m k k := fun _ hu hlt => (Nat.not_lt.mpr hu hlt).elim

theorem Waits.succ (h : Waits w m t) (ht : (w m.asked t).exit = none) : Waits w m (t + 1) := by
  intro u hu hlt
  rcases Nat.lt_succ_iff_lt_or_eq.mp hlt with hlt | rfl
  · exact h u hu hlt
  · exact ht

theorem KillPends.succ {k : Nat} (h : KillPends w m k t) (ht : (w (m.killed k) t).killed = false) :
    KillPends w m k (t + 1) := by
  intro u hu hlt
  rcases Nat.lt_succ_iff_lt_or_eq.mp hlt with hlt | rfl
  · exact h u hu hlt
  · exact ht

/-- A session that waits for the end of its capture. -/
theorem shutting_go_ending {s : Session} {now : Nat} (hp : s.phase = .ending m.graceEnd) (hn : m.now ≤ now)
    (hd : now ≤ m.graceEnd) (hw : Waits w m now) :
    Shutting w m (go w { session := s, log := m.asked, now := now }) := by
  set c : Moment := { session := s, log := m.asked, now := now }
  cases hx : (w m.asked now).exit with
  | none =>
    by_cases hg : m.graceEnd ≤ now
    · have hs : c.session.step (c.view w) = some ({ s with phase := .killing }, [.kill]) := by
        simp [c, Session.step, hp, view, hx, hg]
      rw [go_of_step hs]
      exact .killing rfl ⟨hn, hd, hw, .inr ⟨hx, hg⟩⟩ le_rfl killPends_self
    · have hs : c.session.step (c.view w) = none := by
        simp [c, Session.step, hp, view, hx, hg]
      rw [go_of_wait hs]
      exact .ending hp (Nat.le_succ_of_le hn) (Nat.lt_of_not_le hg) (hw.succ hx)
  | some exit =>
    cases exit with
    | ok x =>
      have hs : c.session.step (c.view w) =
          some ((s.finish (c.view w).clock .stopped).after [.release]) := by
        simp [c, Session.step, hp, view, hx]
      rw [go_of_step hs]
      exact .obeyed rfl rfl ⟨hn, hw, hx⟩ hd le_rfl
    | error e =>
      have hs : c.session.step (c.view w) = some ({ s with phase := .killing }, [.kill]) := by
        simp [c, Session.step, hp, view, hx]
      rw [go_of_step hs]
      exact .killing rfl ⟨hn, hd, hw, .inl ⟨e, hx⟩⟩ le_rfl killPends_self

/-- A session that waits for the end of its killed capture. -/
theorem shutting_go_killing {s : Session} {now k : Nat} (hp : s.phase = .killing) (hk : Kills w m k)
    (hn : k ≤ now) (hw : KillPends w m k now) :
    Shutting w m (go w { session := s, log := m.killed k, now := now }) := by
  set c : Moment := { session := s, log := m.killed k, now := now }
  cases hx : (w (m.killed k) now).killed with
  | false =>
    have hs : c.session.step (c.view w) = none := by
      simp [c, Session.step, hp, view, hx]
    rw [go_of_wait hs]
    exact .killing hp hk (Nat.le_succ_of_le hn) (hw.succ hx)
  | true =>
    have hs : c.session.step (c.view w) =
        some ((s.finish (c.view w).clock .stopped).after [.release]) := by
      simp [c, Session.step, hp, view, hx]
    rw [go_of_step hs]
    exact .killed rfl rfl hk ⟨hn, hw, hx⟩ le_rfl

theorem shutting_go (hp : m.session.phase = .running ∨ ∃ t, m.session.phase = .confirming t)
    (h : Shutting w m m') : Shutting w m (m'.go w) := by
  cases h with
  | asked =>
    rw [go_of_step (m := m.stop) (Session.step_of_held (s := m.session.stop) rfl hp)]
    exact .ending rfl le_rfl now_le_graceEnd waits_self
  | ending hp hn hd hw => exact shutting_go_ending hp hn hd hw
  | killing hp hk hn hw => exact shutting_go_killing hp hk hn hw
  | obeyed hp hr hx hd hn =>
    rw [go_of_wait (Session.step_of_done (.inl hp))]
    exact .obeyed hp hr hx hd (Nat.le_succ_of_le hn)
  | killed hp hr hk hx hn =>
    rw [go_of_wait (Session.step_of_done (.inl hp))]
    exact .killed hp hr hk hx (Nat.le_succ_of_le hn)

end Moment
end ProxyWatch
