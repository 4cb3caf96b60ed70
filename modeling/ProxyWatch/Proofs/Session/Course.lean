import Mathlib.Computability.RegularExpressions
import ProxyWatch.Proofs.Session.Step

/-! Courses of a session: whatever it sees, in whatever order looks and requests to stop come. -/
namespace ProxyWatch

/-- What reaches a session. -/
inductive Cue
  | stop
  | look (v : SessionView)

/-- A session and what it has done, with the instants. -/
structure Course where
  session : Session
  log : List (Nat × SessionAct) := []

namespace Course

/-- The course of a session that has not begun. -/
def ofTarget (options : SessionOptions) (target : String) (clock : Timestamp) : Course :=
  { session := .ofTarget options target clock }

def acts (c : Course) : List SessionAct := c.log.map (·.2)

def stop (c : Course) : Course := { c with session := c.session.stop }

/-- The session does what is due in a view, if anything is. -/
def look (c : Course) (v : SessionView) : Course :=
  match c.session.step v with
  | some (s, acts) => { session := s, log := c.log ++ acts.map (v.now, ·) }
  | none => c

def next (c : Course) : Cue → Course
  | .stop => c.stop
  | .look v => c.look v

def follow (c : Course) (cues : List Cue) : Course := cues.foldl next c

/-- A look is one step or none. -/
theorem look_cases (c : Course) (v : SessionView) :
    (c.session.step v = none ∧ c.look v = c) ∨
    ∃ s acts, c.session.step v = some (s, acts) ∧ Session.Step c.session v s acts ∧
      c.look v = { session := s, log := c.log ++ acts.map (v.now, ·) } := by
  cases h : c.session.step v with
  | none => exact .inl ⟨rfl, by simp only [look, h]⟩
  | some r => exact .inr ⟨r.1, r.2, rfl, Session.step_cases h, by simp only [look, h]⟩

/-- What holds of the first course and is kept by stops and steps holds of every course. -/
theorem follow_induction {P : Course → Prop} {c : Course} (hc : P c)
    (hstop : ∀ c, P c → P c.stop)
    (hstep : ∀ c v s acts, P c → Session.Step c.session v s acts →
      P { session := s, log := c.log ++ acts.map (v.now, ·) })
    (cues : List Cue) : P (c.follow cues) := by
  induction cues generalizing c with
  | nil => exact hc
  | cons cue cues ih =>
    apply ih
    cases cue with
    | stop => exact hstop c hc
    | look v =>
      rcases c.look_cases v with ⟨_, h⟩ | ⟨s, acts, _, hs, h⟩
      · simpa only [next, h] using hc
      · simpa only [next, h] using hstep c v s acts hc hs

end Course

/-! Reports -/

/-- A transition of a session, as it is reported. -/
structure Transition where
  target : String
  previous : Option SessionState
  current : SessionState
  attempt : Nat
  route : Option Route
  error : Option String

def Event.transition? : Event → Option Transition
  | .sessionChanged target previous current attempt route error =>
    some { target, previous, current, attempt, route, error }
  | _ => none

namespace SessionAct

def transition? : SessionAct → Option Transition
  | .report e => e.transition?
  | _ => none

/-- The displayed record after an act. -/
def shown (r : SessionRecord) : SessionAct → SessionRecord
  | .display r' => r'
  | _ => r

def isLaunch : SessionAct → Bool
  | .launch .. => true
  | _ => false

/-- The act neither reports nor displays anything. -/
def Silent (a : SessionAct) : Prop := (∀ e, a ≠ .report e) ∧ ∀ r, a ≠ .display r

end SessionAct

def transitions (acts : List SessionAct) : List Transition :=
  acts.filterMap SessionAct.transition?

/-- The record displayed after some acts, given the one before them. -/
def displayed (r : SessionRecord) (acts : List SessionAct) : SessionRecord :=
  acts.foldl SessionAct.shown r

/-- The transition into the state of a record. -/
def SessionRecord.transition (r : SessionRecord) (previous : Option SessionState) : Transition where
  target := r.target
  previous := previous
  current := r.state
  attempt := r.attempt
  route := r.route
  error := r.told

section
variable {r r' : SessionRecord} {p : Option SessionState} {acts acts' : List SessionAct}
  {a : SessionAct}

theorem transitions_append :
    transitions (acts ++ acts') = transitions acts ++ transitions acts' :=
  List.filterMap_append

@[simp] theorem transitions_announcement : transitions (announcement p r) = [r.transition p] := rfl

theorem SessionAct.Silent.transition (h : a.Silent) : a.transition? = none := by
  cases a with
  | report e => exact (h.1 e rfl).elim
  | _ => rfl

theorem SessionAct.Silent.shown (h : a.Silent) : a.shown r = r := by
  cases a with
  | display r' => exact (h.2 r' rfl).elim
  | _ => rfl

theorem displayed_append : displayed r (acts ++ acts') = displayed (displayed r acts) acts' :=
  List.foldl_append

@[simp] theorem displayed_announcement : displayed r (announcement p r') = r' := rfl

theorem displayed_silent (h : a.Silent) : displayed r (acts ++ [a]) = displayed r acts := by
  rw [displayed_append]
  exact h.shown

end

end ProxyWatch
