import ProxyWatch.Proofs.Session.Running

/-! Sessions down to their single acts: between any two of them others may act, and a stop may be requested. -/
namespace ProxyWatch

/-- A capture is held. -/
def Hold.isCapture : Hold → Bool
  | .capture _ => true
  | _ => false

/-- The act is in its place, where a capture is held or not, some acts are still to follow in the step and the step
leads into a phase: nothing is launched while a capture is held, and a final state is displayed last of all, when none
is. -/
def SessionAct.Timely (p : Phase) (held : Bool) (rest : List SessionAct) : SessionAct → Prop
  | .launch .. => held = false
  | .display r => r.state.isTerminal = true → held = false ∧ rest = [] ∧ p = .over
  | _ => True

/-- The acts that a step has still to do are in their places, and leave a capture held if the phase needs one. -/
def Orderly (p : Phase) : Bool → List SessionAct → Prop
  | held, [] => held = p.holds
  | held, a :: rest => a.Timely p held rest ∧ Orderly p (a.holds held) rest

section
variable {s s' : Session} {v : SessionView} {acts rest : List SessionAct} {e : ProcessError} {p : Phase} {held : Bool}
  {previous : Option SessionState} {r : SessionRecord}

/-! The acts of a step -/

/-- The announcement of a state that isn't final may stand anywhere. -/
theorem orderly_announcement (hr : r.state.isTerminal = false) (h : Orderly p held rest) :
    Orderly p held (announcement previous r ++ rest) :=
  ⟨trivial, fun ht => absurd ht (by simp [hr]), h⟩

/-- The announcement of a final state ends the session. -/
theorem orderly_end (previous : Option SessionState) (r : SessionRecord) :
    Orderly .over false (announcement previous r) :=
  ⟨trivial, fun _ => ⟨rfl, rfl, rfl⟩, rfl⟩

theorem Session.Failure.orderly (hf : Failure s v acts e) (h : Orderly p false rest) :
    Orderly p s.phase.holds (acts ++ rest) := by
  cases hf with
  | launch hp =>
    rw [hp]
    exact h
  | timeout hp =>
    rw [hp]
    exact ⟨trivial, h⟩
  | early | earlyError | crash | runError => exact ⟨trivial, h⟩

theorem Session.Stop.orderly (hs : Stop s v acts) (h : Orderly p false rest) :
    Orderly p s.phase.holds (acts ++ rest) := by
  cases hs with
  | fresh hp | resting hp =>
    rw [hp]
    exact h
  | launching hp =>
    rw [hp]
    exact ⟨trivial, h⟩
  | completed | ended | killed => exact ⟨trivial, h⟩

/-- The acts of every step are in their places. -/
theorem orderly_step (h : Session.Step s v s' acts) : Orderly s'.phase s.phase.holds acts := by
  cases h with
  | refused hp =>
    rw [hp.holds]
    exact orderly_announcement rfl (orderly_end _ _)
  | launched hp =>
    rw [hp.holds]
    exact orderly_announcement rfl ⟨rfl, rfl⟩
  | kept => exact ⟨trivial, rfl⟩
  | rested _ hf | vanished _ hf =>
    exact hf.orderly ⟨trivial, fun ht => absurd ht (by simp [Session.failing, SessionState.isTerminal]), rfl⟩
  | spent _ hf => exact hf.orderly (orderly_announcement rfl (orderly_end _ _))
  | confirmed hp =>
    rw [hp]
    exact ⟨trivial, fun ht => absurd ht (by simp [SessionState.isTerminal]), rfl⟩
  | shutDown hp => rcases hp with hp | ⟨_, hp⟩ <;> rw [hp] <;> exact ⟨trivial, rfl⟩
  | killed hp =>
    rw [hp]
    exact ⟨trivial, rfl⟩
  | stopped hs => exact hs.orderly (orderly_end _ _)

end

/-! Sessions between two acts -/

/-- A session and what it has still to do of the step that it is in. -/
abbrev Actor := SessionRun × List SessionAct

namespace Actor

/-- What can happen to a session: it takes its next step and knows what to do, it does one thing, or a stop is
requested. -/
inductive Acting : Actor → Actor → Prop
  | decide {r : SessionRun} {now : Nat} {clock : Timestamp} {endpoints : List Endpoint} {s : Session}
      {acts : List SessionAct} (hb : r.begun = true)
      (h : r.session.step (r.view now clock endpoints) = some (s, acts)) :
      Acting (r, []) ({ r with session := s }, acts)
  | act (launcher : Launch → CaptureScript) (now : Nat) (r : SessionRun) (a : SessionAct) (rest : List SessionAct) :
      Acting (r, a :: rest) ((SessionRun.perform launcher now (r, {}) a).1, rest)
  | ask (r : SessionRun) (todo : List SessionAct) : Acting (r, todo) ({ r with session := r.session.stop }, todo)

/-- What holds of every session at any time. -/
structure Poised (x : Actor) : Prop where
  /-- What it has still to do is in its place. -/
  orderly : ∃ held, (x.1.hold.isCapture = true → held = true) ∧ Orderly x.1.session.phase held x.2
  /-- Once a final state is displayed, no capture is held and nothing is left to do. -/
  final : x.1.isFinished = true → x.1.hold.isCapture = false ∧ x.2 = [] ∧ x.1.session.phase = .over

variable {x y : Actor} {r : SessionRun} {a : SessionAct} {rest : List SessionAct}

theorem poised_fresh (s : Session) (hs : s.phase = .fresh) (hr : s.record.state.isTerminal = false) :
    Poised ({ session := s }, []) where
  orderly := ⟨false, by simp [Hold.isCapture], by rw [hs]; rfl⟩
  final hf := absurd hf (by simp [SessionRun.isFinished, hr])

theorem isCapture_perform {launcher : Launch → CaptureScript} {now : Nat} {held : Bool}
    (h : r.hold.isCapture = true → held = true)
    (hc : (SessionRun.perform launcher now (r, {}) a).1.hold.isCapture = true) : a.holds held = true := by
  cases a with
  | report | display => exact h hc
  | launch | abandon | release => simp [SessionRun.perform, Hold.isCapture] at hc
  | keep => rfl
  | terminate | kill =>
    simp only [SessionRun.perform] at hc
    split at hc
    · rename_i c hr
      exact h (by rw [hr]; rfl)
    · exact h hc

theorem Poised.act (h : Poised (r, a :: rest)) (launcher : Launch → CaptureScript) (now : Nat) :
    Poised ((SessionRun.perform launcher now (r, {}) a).1, rest) := by
  obtain ⟨held, hh, ht, ho⟩ := h.orderly
  constructor
  case orderly =>
    rw [SessionRun.perform_session]
    exact ⟨a.holds held, isCapture_perform hh, ho⟩
  case final =>
    intro hf
    rw [SessionRun.isFinished, SessionRun.perform_shown] at hf
    cases a with
    | display record =>
      obtain ⟨rfl, hrest, hp⟩ := ht hf
      exact ⟨Bool.eq_false_iff.mpr fun hc => Bool.false_ne_true (hh hc), hrest, hp⟩
    | report | launch | abandon | keep | terminate | kill | release => exact absurd (h.final hf).2.1 (by simp)

theorem Poised.decide {now : Nat} {clock : Timestamp} {endpoints : List Endpoint} {s : Session}
    {acts : List SessionAct} (h : Poised (r, []))
    (hs : r.session.step (r.view now clock endpoints) = some (s, acts)) : Poised ({ r with session := s }, acts) := by
  obtain ⟨held, hh, ho⟩ := h.orderly
  have hstep : Session.Step r.session (r.view now clock endpoints) s acts := Session.step_cases hs
  constructor
  case orderly =>
    obtain rfl : held = r.session.phase.holds := ho
    exact ⟨_, hh, orderly_step hstep⟩
  case final =>
    intro hf
    rw [Session.step_of_done (.inl (h.final hf).2.2)] at hs
    cases hs

/-- Whatever happens to a session, it stays poised. -/
theorem Poised.acting (h : Poised x) (ha : Acting x y) : Poised y := by
  cases ha with
  | decide _ hs => exact h.decide hs
  | act launcher now => exact h.act launcher now
  | ask => exact ⟨h.orderly, h.final⟩

/-- A session that displays a final state keeps displaying it. -/
theorem Poised.finished (h : Poised x) (hf : x.1.isFinished = true) (ha : Acting x y) : y.1.isFinished = true := by
  cases ha with
  | decide _ hs =>
    rw [Session.step_of_done (.inl (h.final hf).2.2)] at hs
    cases hs
  | act => exact absurd (h.final hf).2.1 (by simp)
  | ask => exact hf

/-- A launch is the act of a session that holds no capture, and that displays no final state. -/
theorem Poised.launch {proxy : Option String} {attempt : Nat} (h : Poised (r, .launch proxy attempt :: rest)) :
    r.hold.isCapture = false ∧ r.isFinished = false := by
  obtain ⟨held, hh, ht, -⟩ := h.orderly
  have hheld : held = false := ht
  subst hheld
  refine ⟨Bool.eq_false_iff.mpr fun hc => Bool.false_ne_true (hh hc), Bool.eq_false_iff.mpr fun hf => ?_⟩
  exact absurd (h.final hf).2.1 (by simp)

theorem Acting.target_eq (ha : Acting x y) : y.1.target = x.1.target := by
  cases ha with
  | decide _ hs => exact (Session.step_cases hs).target_eq
  | act => exact SessionRun.target_perform
  | ask => rfl

end Actor
end ProxyWatch
