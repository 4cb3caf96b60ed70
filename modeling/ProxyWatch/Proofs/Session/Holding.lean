import ProxyWatch.Proofs.Session.Timed

/-! What a session holds, and what is seen of it from outside. -/
namespace ProxyWatch

open Session

/-- Whether a capture is held after an act. -/
def SessionAct.holds (held : Bool) : SessionAct → Bool
  | .keep => true
  | .release => false
  | _ => held

/-- A capture is held after some acts. -/
def holding (acts : List SessionAct) : Bool := acts.foldl SessionAct.holds false

/-- A capture is held in the phase. -/
def Phase.holds : Phase → Bool
  | .confirming _ | .running | .ending _ | .killing => true
  | _ => false

section
variable {s s' : Session} {v : SessionView} {acts acts' : List SessionAct} {e : ProcessError}

theorem holding_append : holding (acts ++ acts') = acts'.foldl SessionAct.holds (holding acts) :=
  List.foldl_append

theorem Session.Starts.holds (h : s.Starts v) : s.phase.holds = false := by
  rcases h with hp | ⟨_, hp, _⟩ <;> rw [hp] <;> rfl

theorem Session.Failure.foldl_holds (h : Failure s v acts e) :
    acts.foldl SessionAct.holds s.phase.holds = false := by
  cases h <;> simp_all [Phase.holds, SessionAct.holds]

theorem Session.Stop.foldl_holds (h : Stop s v acts) :
    acts.foldl SessionAct.holds s.phase.holds = false := by
  cases h <;> simp_all [Phase.holds, SessionAct.holds]

theorem holding_step (hh : holding acts = s.phase.holds) (h : Step s v s' acts') :
    holding (acts ++ acts') = s'.phase.holds := by
  rw [holding_append, hh]
  cases h with
  | refused hp =>
    rw [hp.holds]
    rfl
  | launched hp =>
    rw [hp.holds]
    rfl
  | kept => rfl
  | rested _ hf | vanished _ hf | spent _ hf =>
    rw [List.foldl_append, hf.foldl_holds]
    rfl
  | confirmed hp | killed hp =>
    rw [hp]
    rfl
  | shutDown hp => rcases hp with hp | ⟨_, hp⟩ <;> rw [hp] <;> rfl
  | stopped hq =>
    rw [List.foldl_append, hq.foldl_holds]
    rfl

end

theorem Course.holding_eq (o : SessionOptions) (target : String) (clock : Timestamp) (cues : List Cue) :
    let c := (Course.ofTarget o target clock).follow cues
    holding c.acts = c.session.phase.holds := by
  apply Course.follow_induction (P := fun c => holding c.acts = c.session.phase.holds)
  · rfl
  · intro c h
    exact h
  · intro c v s acts h hs
    simpa [Course.acts, Function.comp_def] using holding_step h hs

/-! Reports and outcomes -/

def SessionAct.event? : SessionAct → Option Event
  | .report e => some e
  | _ => none

/-- The reported events, with the instants. -/
def reportsOf (log : List (Nat × SessionAct)) : List (Nat × Event) :=
  log.filterMap fun entry => entry.2.event?.map (entry.1, ·)

/-- The state that a waiting caller sees, where the first record was displayed before anything was done. -/
def Course.outcome? (first : SessionRecord) (c : Course) : Option SessionState :=
  (displayed first c.acts).outcome? (c.session.phase = .vanished)

/-- All that is reported is that the session is stopped, and when. -/
def StoppedAt (log : List (Nat × SessionAct)) (t : Nat) : Prop :=
  ∃ e tr, reportsOf log = [(t, e)] ∧ e.transition? = some tr ∧ tr.current = .stopped

end ProxyWatch
