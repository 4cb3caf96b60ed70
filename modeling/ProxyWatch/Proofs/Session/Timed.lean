import ProxyWatch.Proofs.Session.Story

/-! Sessions in time. At each instant a session does all that is due before the next instant comes, and
requests to stop come at any time. -/
namespace ProxyWatch

/-- What a session sees at an instant, after what it has done until then. -/
abbrev World := List (Nat × SessionAct) → Nat → SessionView

/-- A course that has come to an instant. -/
structure Moment extends Course where
  now : Nat

/-- A request to stop, or a chance for the session to go on. -/
inductive Turn
  | stop
  | go
  deriving DecidableEq

namespace Moment

variable {w : World} {m : Moment} {turns : List Turn}

/-- A session that has not begun, at an instant. -/
def ofTarget (options : SessionOptions) (target : String) (clock : Timestamp) (start : Nat) : Moment :=
  { toCourse := .ofTarget options target clock, now := start }

def view (w : World) (m : Moment) : SessionView := { w m.log m.now with now := m.now }

def stop (m : Moment) : Moment := { m with session := m.session.stop }

/-- The session does what is due; if nothing is, time passes. -/
def go (w : World) (m : Moment) : Moment :=
  match m.session.step (m.view w) with
  | some (s, acts) => { session := s, log := m.log ++ acts.map (m.now, ·), now := m.now }
  | none => { m with now := m.now + 1 }

def turn (w : World) (m : Moment) : Turn → Moment
  | .stop => m.stop
  | .go => m.go w

def run (w : World) (m : Moment) (turns : List Turn) : Moment := turns.foldl (turn w) m

/-- Only turns in which the session goes on. -/
def proceed (w : World) (m : Moment) (n : Nat) : Moment := m.run w (List.replicate n .go)

@[simp] theorem run_nil : m.run w [] = m := rfl

@[simp] theorem run_cons {t : Turn} : m.run w (t :: turns) = (m.turn w t).run w turns := rfl

theorem run_append {turns' : List Turn} : m.run w (turns ++ turns') = (m.run w turns).run w turns' :=
  List.foldl_append

theorem proceed_add {k n : Nat} : m.proceed w (n + k) = (m.proceed w n).proceed w k := by
  simp only [proceed, List.replicate_add, run_append]

/-- The session makes a step, or time passes. -/
theorem go_cases (w : World) (m : Moment) :
    (m.session.step (m.view w) = none ∧ m.go w = { m with now := m.now + 1 }) ∨
    ∃ s acts, m.session.step (m.view w) = some (s, acts) ∧
      Session.Step m.session (m.view w) s acts ∧
      m.go w = { session := s, log := m.log ++ acts.map (m.now, ·), now := m.now } := by
  cases h : m.session.step (m.view w) with
  | none => exact .inl ⟨rfl, by simp only [go, h]⟩
  | some r => exact .inr ⟨r.1, r.2, rfl, Session.step_cases h, by simp only [go, h]⟩

theorem go_of_step {s : Session} {acts : List SessionAct}
    (h : m.session.step (m.view w) = some (s, acts)) :
    m.go w = { session := s, log := m.log ++ acts.map (m.now, ·), now := m.now } := by
  simp only [go, h]

/-- What is kept by stops, steps and the passing of time holds throughout a run. -/
theorem run_induction {P : Moment → Prop} (hm : P m) (hstop : ∀ m, P m → P m.stop)
    (hgo : ∀ m, P m → P (m.go w)) (turns : List Turn) : P (m.run w turns) := by
  induction turns generalizing m with
  | nil => exact hm
  | cons t turns ih =>
    apply ih
    cases t with
    | stop => exact hstop m hm
    | go => exact hgo m hm

theorem proceed_induction {P : Moment → Prop} (hm : P m) (hgo : ∀ m, P m → P (m.go w)) (n : Nat) :
    P (m.proceed w n) := by
  induction n generalizing m with
  | zero => exact hm
  | succ n ih => exact ih (hgo m hm)

/-- A run in time is a course. -/
theorem run_follows (w : World) (m : Moment) (turns : List Turn) :
    ∃ cues, (m.run w turns).toCourse = m.toCourse.follow cues := by
  induction turns generalizing m with
  | nil => exact ⟨[], rfl⟩
  | cons t turns ih =>
    obtain ⟨cues, h⟩ := ih (m.turn w t)
    cases t with
    | stop => exact ⟨.stop :: cues, h⟩
    | go =>
      have hl : (m.go w).toCourse = m.toCourse.look (m.view w) := by
        unfold go Course.look
        split <;> simp_all [view]
      exact ⟨.look (m.view w) :: cues, by
        rw [run_cons, h, turn, hl]
        rfl⟩

end Moment

/-! Requests to stop -/

namespace Session

variable {s s' : Session} {v : SessionView} {acts : List SessionAct}

theorem stop_eq_self (h : s.stopping = true) : s.stop = s := by
  cases s
  simp_all [stop]

theorem Step.stopping_eq (h : Step s v s' acts) : s'.stopping = s.stopping := by
  cases h <;> rfl

/-- A session that is to stop comes nearer to its end with each step. -/
theorem Step.rank_lt (h : Step s v s' acts) (hs : s.stopping = true) :
    Phase.rank s'.phase < Phase.rank s.phase := by
  cases h with
  | shutDown hp => rcases hp with hp | ⟨_, hp⟩ <;> simp [hp, Phase.rank]
  | killed hp => simp [hp, Phase.rank]
  | stopped hp => cases hp <;> simp_all [Phase.rank]
  | _ => simp_all

/-- Only a request to stop makes a session shut its capture down. -/
def Ordered (s : Session) : Prop :=
  ((∃ d, s.phase = .ending d) ∨ s.phase = .killing) → s.stopping = true

theorem Step.ordered (h : Step s v s' acts) (ho : s.Ordered) : s'.Ordered := by
  cases h <;> simp_all [Ordered]

end Session

namespace Moment

variable {w : World} {m : Moment}

theorem stop_eq_self (h : m.session.stopping = true) : m.stop = m := by
  unfold stop
  rw [Session.stop_eq_self h]

theorem stopping_go : (m.go w).session.stopping = m.session.stopping := by
  rcases go_cases w m with ⟨_, h⟩ | ⟨s, acts, _, hs, h⟩ <;> rw [h]
  exact hs.stopping_eq

theorem stopping_proceed (n : Nat) : (m.proceed w n).session.stopping = m.session.stopping := by
  apply proceed_induction (P := fun m' => m'.session.stopping = m.session.stopping)
  · rfl
  · intro m' h
    rw [stopping_go, h]

/-- After a request to stop further ones change nothing. -/
theorem run_filter_go (h : m.session.stopping = true) (turns : List Turn) :
    m.run w (turns.filter (· = .go)) = m.run w turns := by
  induction turns generalizing m with
  | nil => rfl
  | cons t turns ih =>
    cases t with
    | stop => simpa [turn, stop_eq_self h] using ih h
    | go => simpa [turn] using ih (stopping_go.trans h)

/-- A session that is to stop lets time pass. -/
theorem exists_now_lt (h : m.session.stopping = true) : ∃ n, m.now < (m.proceed w n).now := by
  induction hr : Session.Phase.rank m.session.phase using Nat.strong_induction_on generalizing m with
  | _ rank ih =>
    rcases go_cases w m with ⟨_, hg⟩ | ⟨s, acts, _, hs, hg⟩
    · refine ⟨1, ?_⟩
      simp [proceed, turn, hg]
    · have hlt : Session.Phase.rank (m.go w).session.phase < rank := by
        rw [hg, ← hr]
        exact hs.rank_lt h
      obtain ⟨n, hn⟩ := ih _ hlt (stopping_go.trans h) rfl
      refine ⟨n + 1, ?_⟩
      rw [hg] at hn
      simpa [proceed, List.replicate_succ, turn, hg] using hn

theorem exists_le_now (h : m.session.stopping = true) (t : Nat) : ∃ n, t ≤ (m.proceed w n).now := by
  induction t with
  | zero => exact ⟨0, Nat.zero_le _⟩
  | succ t ih =>
    obtain ⟨n, hn⟩ := ih
    obtain ⟨k, hk⟩ := exists_now_lt (w := w) (m := m.proceed w n) ((stopping_proceed n).trans h)
    exact ⟨n + k, by rw [proceed_add]; omega⟩

end Moment
end ProxyWatch
