import Mathlib.Logic.Relation
import ProxyWatch.Proofs.Session.Punctual
import ProxyWatch.Proofs.Session.Story

/-! Sessions as time passes. A session does all that is due at an instant before a later one comes. -/
namespace ProxyWatch

/-- What the plan has up to an instant. -/
def Plan.upTo (p : Plan) (last : Nat) : Plan := p.filter (·.1 ≤ last)

namespace Scenario

/-- A session at an instant, and what was seen of it so far. -/
structure Sighting where
  run : SessionRun
  now : Nat
  seen : Plan := []

/-- A session that begins at an instant. -/
def beginning (x : Scenario) (start : Nat) (clock : Timestamp) : Sighting where
  run := { session := .ofTarget x.config.sessionOptions x.target clock }
  now := start

/-- There is nothing left for the session to do at the instant. -/
def Sighting.AtRest (s : Sighting) : Prop := ∃ launcher clock es, s.run.step launcher s.now clock es = none

variable {x : Scenario} {s t : Sighting} {start last : Nat} {clock : Timestamp}

/-- The session does one thing that is due, or time passes. -/
inductive Tick (x : Scenario) (s : Sighting) : Sighting → Prop
  | act {launcher : Launch → CaptureScript} {clock : Timestamp} {y : SessionRun × SessionTrace}
      (hlaunch : ∀ l, l.attempt = upcoming s.run → launcher l = x.script (upcoming s.run))
      (h : s.run.step launcher s.now clock (x.seen (upcoming s.run)) = some y) :
      Tick x s { run := y.1, now := s.now, seen := s.seen ++ marks s.now y.2 }
  | pass {now : Nat} (hrest : s.AtRest) (hle : s.now ≤ now) (hdue : ∀ t ∈ s.run.due, s.now < t → now ≤ t) :
      Tick x s { s with now := now }

/-- Any number of ticks. -/
abbrev Ticks (x : Scenario) : Sighting → Sighting → Prop := Relation.ReflTransGen (Tick x)

/-- What was seen is what the plan has up to now. -/
structure OnPlan (x : Scenario) (start : Nat) (s : Sighting) : Prop where
  tracks : ∃ rest, x.plan start = s.seen ++ rest ∧ Tracks x s.now s.run rest
  seen_le : ∀ m ∈ s.seen, m.1 ≤ s.now

theorem onPlan_beginning (x : Scenario) (start : Nat) (clock : Timestamp) :
    OnPlan x start (x.beginning start clock) where
  tracks := ⟨_, rfl, .fresh clock⟩
  seen_le := by simp [beginning]

theorem mem_marks {now : Nat} {trace : SessionTrace} {m : Nat × Mark} (h : m ∈ marks now trace) : m.1 = now := by
  simp only [marks, List.mem_append, List.mem_map] at h
  rcases h with ⟨_, _, rfl⟩ | ⟨_, _, rfl⟩ <;> rfl

theorem onPlan_tick (hv : x.config.validate = .ok ()) (h : OnPlan x start s) (ht : Tick x s t) : OnPlan x start t := by
  obtain ⟨rest, hplan, htracks⟩ := h.tracks
  cases ht with
  | act hlaunch hy =>
    obtain ⟨rest', rfl, htracks'⟩ := htracks.keeps hv hlaunch hy
    constructor
    case tracks => exact ⟨rest', by rw [hplan, List.append_assoc], htracks'⟩
    case seen_le =>
      intro m hm
      rcases List.mem_append.mp hm with hm | hm
      · exact h.seen_le m hm
      · exact Nat.le_of_eq (mem_marks hm)
  | pass hrest hle hdue =>
    obtain ⟨_, _, _, hstep⟩ := hrest
    exact ⟨⟨rest, hplan, htracks.pass hstep hdue⟩, fun m hm => Nat.le_trans (h.seen_le m hm) hle⟩

theorem onPlan_ticks (hv : x.config.validate = .ok ()) (h : OnPlan x start s) (ht : Ticks x s t) :
    OnPlan x start t := by
  induction ht with
  | refl => exact h
  | tail _ ht ih => exact onPlan_tick hv ih ht

/-- A session at rest has done all that the plan has until something is due again. -/
theorem OnPlan.seen_eq (h : OnPlan x start s) (hrest : s.AtRest) (hle : s.now ≤ last)
    (hdue : ∀ t ∈ s.run.due, s.now < t → last < t) : s.seen = (x.plan start).upTo last := by
  obtain ⟨rest, hplan, htracks⟩ := h.tracks
  obtain ⟨_, _, _, hstep⟩ := hrest
  have hlater : Since (last + 1) rest := (htracks.pass hstep hdue).since
  have hseen : s.seen.filter (·.1 ≤ last) = s.seen :=
    List.filter_eq_self.mpr fun m hm => decide_eq_true (Nat.le_trans (h.seen_le m hm) hle)
  have hrest : rest.filter (·.1 ≤ last) = [] :=
    List.filter_eq_nil_iff.mpr fun m hm => by simpa [Nat.succ_le_iff] using hlater m hm
  rw [hplan, Plan.upTo, List.filter_append, hseen, hrest, List.append_nil]

/-- A session that begins and comes to rest has done what the plan has up to now. -/
theorem seen_eq_plan (hv : x.config.validate = .ok ()) (ht : Ticks x (x.beginning start clock) s) (hrest : s.AtRest) :
    s.seen = (x.plan start).upTo s.now :=
  (onPlan_ticks hv (onPlan_beginning x start clock) ht).seen_eq hrest (Nat.le_refl _) fun _ _ h => h

end Scenario

/-! What a step takes -/

namespace Session

variable {s s' : Session} {v : SessionView} {acts : List SessionAct} {e : ProcessError}

theorem Starts.lt_rank (h : s.Starts v) : 5 < Phase.rank s.phase := by
  rcases h with hp | ⟨_, hp, _⟩ <;> simp [hp, Phase.rank]

theorem Failure.lt_rank (h : Failure s v acts e) : 2 < Phase.rank s.phase := by
  cases h <;> simp_all [Phase.rank]

theorem Stop.rank_pos (h : Stop s v acts) : 0 < Phase.rank s.phase := by
  cases h <;> simp_all [Phase.rank]

/-- With each step a session comes nearer to its end. -/
theorem Step.load_lt (h : Step s v s' acts) : s'.load < s.load := by
  cases h with
  | refused hp => exact Nat.add_lt_add_right (Nat.zero_lt_of_lt hp.lt_rank) _
  | launched hp => exact Nat.add_lt_add_right hp.lt_rank _
  | rested _ hf hd =>
    -- There is a retry left to be taken, and it weighs more than all phases of an attempt.
    have hrank := hf.lt_rank
    have hn : ¬ s.options.retry.maxRetries < s.retries + 1 := by
      rw [← RetryPolicy.decide_eq_spent_iff, hd]
      simp
    change 7 + 8 * (s.options.retry.maxRetries + 1 - (s.retries + 1)) < Phase.rank s.phase + _
    omega
  | spent _ hf | vanished _ hf =>
    have hrank := hf.lt_rank
    change 0 + 8 * (s.options.retry.maxRetries + 1 - (s.retries + 1)) < Phase.rank s.phase + _
    omega
  | kept hp | confirmed hp | killed hp => simp [load, Phase.rank, hp]
  | shutDown hp => rcases hp with hp | ⟨_, hp⟩ <;> simp [load, Phase.rank, hp]
  | stopped hs => exact Nat.add_lt_add_right hs.rank_pos _

/-- An attempt launches once, unless it is refused. -/
theorem Step.launches (h : Step s v s' acts) :
    s.record.attempt + acts.countP SessionAct.isLaunch = s'.record.attempt ∨ s'.phase = .over := by
  cases h with
  | refused | spent | stopped => exact .inr rfl
  | launched => exact .inl rfl
  | rested _ hf | vanished _ hf => exact .inl (by simp [hf.quiet.countP, countP_announcement, failing])
  | confirmed | kept | shutDown | killed => exact .inl rfl

end Session
end ProxyWatch
