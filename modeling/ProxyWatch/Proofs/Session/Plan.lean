import ProxyWatch.Proofs.Retry
import ProxyWatch.Session.Run

/-! When a session that nobody stops reports and launches what, worked out from how its captures behave. -/
namespace ProxyWatch

/-- What a session lets be seen of it. -/
inductive Mark
  | report (e : Event)
  | call (c : CaptureCall)

/-- What is to be seen at which instants. -/
abbrev Plan := List (Nat × Mark)

/-- How an attempt goes. -/
structure Attempt where
  /-- When its capture is confirmed. -/
  running : Option Nat := none
  /-- When it ends, and why it failed if it did. -/
  ending : Option (Nat × Except ProcessError Unit) := none

namespace CaptureScript

/-- What the launch returns. -/
def started (s : CaptureScript) : Except ProcessError Unit :=
  match s.launchError with
  | some detail => .error (.start detail)
  | none => .ok ()

/-- What waiting for the end of the capture says. -/
def exit (s : CaptureScript) : Except ProcessError ExitReport :=
  match s.waitError, s.code with
  | some detail, _ => .error (.signal detail)
  | none, some code => .ok (.ofCode code)
  | none, none => .ok .signalled

/-- The failure of a capture that ends before it is confirmed, whatever its code. -/
def early (s : CaptureScript) : ProcessError :=
  match s.exit with
  | .error e => e
  | .ok r => .earlyExit r

/-- How a confirmed capture ends. -/
def late (s : CaptureScript) : Except ProcessError Unit :=
  match s.exit with
  | .error e => .error e
  | .ok r => if r.success then .ok () else .error (.crash r)

end CaptureScript

/-- A session and the world around it. Attempts are numbered from 1 on. -/
structure Scenario where
  config : Config
  target : String
  /-- How the capture of each attempt behaves. -/
  script : Nat → CaptureScript
  /-- The endpoints that are known when an attempt begins. -/
  seen : Nat → List Endpoint

namespace Scenario

variable (x : Scenario)

/-- How long an attempt has to launch and confirm its capture. -/
def timeout : Nat := 1000 * x.config.supervisor.startTimeoutSeconds

/-- How long a launched capture has to live. -/
def confirm : Nat := x.config.supervisor.startConfirmMs

def tooLate : ProcessError := .startTimeout (.ofSeconds x.config.supervisor.startTimeoutSeconds)

/-- The pause after a failure, in started milliseconds. -/
def pause? (failures : Nat) : Option Nat :=
  (x.config.sessionOptions.retry.backoff.delay? failures).map Duration.millisUp

/-- How an attempt goes whose capture was launched. -/
def launched (s : CaptureScript) (launch deadline : Nat) : Attempt :=
  let confirmed := min (launch + x.confirm) deadline
  match s.lifetime with
  | none => { running := some confirmed }
  | some life =>
    if launch + life ≤ confirmed then { ending := some (launch + life, .error s.early) }
    else { running := some confirmed, ending := some (launch + life, s.late) }

/-- How an attempt goes. -/
def attempt (s : CaptureScript) (start : Nat) : Attempt :=
  let deadline := start + x.timeout
  match s.launchTime with
  | none => { ending := some (deadline, .error x.tooLate) }
  | some time =>
    if deadline < start + time then { ending := some (deadline, .error x.tooLate) }
    else match s.started with
      | .error e => { ending := some (start + time, .error e) }
      | .ok _ => x.launched s (start + time) deadline

/-- A change of state. -/
def change (n : Nat) (route : Option Route) (previous : Option SessionState) (state : SessionState)
    (error : Option String) : Mark := .report (.sessionChanged x.target previous state n route error)

/-- The end of an attempt, and what follows a failure. -/
def ended (n : Nat) (route : Route) (previous : SessionState) (again : Nat → ProcessError → Plan) :
    Option (Nat × Except ProcessError Unit) → Plan
  | none => []
  | some (t, .ok _) => [(t, x.change n (some route) (some previous) .stopped none)]
  | some (t, .error e) =>
    (t, x.change n (some route) (some previous) .retrying (some e.message)) :: again t e

/-- What is to be seen of an attempt after its launch. -/
def followed (n : Nat) (route : Route) (again : Nat → ProcessError → Plan) (a : Attempt) : Plan :=
  match a.running with
  | some t =>
    (t, x.change n (some route) (some .starting) .running none) :: x.ended n route .running again a.ending
  | none => x.ended n route .starting again a.ending

/-- What is to be seen from the beginning of an attempt on. -/
def opened (n start : Nat) (previous : Option SessionState) (again : Route → Nat → ProcessError → Plan) : Plan :=
  match Selection.select (x.seen n) x.config.failover.fallback with
  | .error e =>
    [(start, x.change n none previous .starting none),
      (start, x.change n none (some .starting) .failed (some e.message))]
  | .ok choice =>
    (start, x.change n (some choice.route) previous .starting none) ::
      (start, .call (.launch { target := x.target, proxy := choice.proxyUrl, attempt := n })) ::
      x.followed n choice.route (again choice.route) (x.attempt (x.script n) start)

/-- What is to be seen from an attempt on, with some retries left. -/
def planFrom : Nat → Nat → Nat → Option SessionState → Plan
  | 0, n, start, previous => x.opened n start previous fun route t e =>
    [(t, x.change n (some route) (some .retrying) .failed (some e.message))]
  | left + 1, n, start, previous => x.opened n start previous fun _ t _ =>
    (x.pause? n).elim [] fun pause => planFrom left (n + 1) (t + pause) (some .retrying)

/-- What is to be seen of a session that begins at an instant. -/
def plan (start : Nat) : Plan := x.planFrom x.config.supervisor.maxRetries 1 start none

/-- What follows the failure of an attempt. -/
def again (left n : Nat) (route : Route) (t : Nat) (e : ProcessError) : Plan :=
  match left with
  | 0 => [(t, x.change n (some route) (some .retrying) .failed (some e.message))]
  | left + 1 => (x.pause? n).elim [] fun pause => x.planFrom left (n + 1) (t + pause) (some .retrying)

variable {x} {left n start t : Nat} {previous : Option SessionState}

theorem planFrom_eq : x.planFrom left n start previous = x.opened n start previous (x.again left n) := by
  cases left <;> rfl

/-! Everything in a plan comes later than its beginning -/

/-- Everything in the plan comes at an instant or later. -/
def Since (start : Nat) (p : Plan) : Prop := ∀ m ∈ p, start ≤ m.1

theorem since_nil : Since start [] := by simp [Since]

theorem since_cons {m : Mark} {p : Plan} (ht : start ≤ t) (h : Since start p) : Since start ((t, m) :: p) := by
  simpa [Since] using ⟨ht, fun a b => h (a, b)⟩

theorem Since.of_le {p : Plan} (h : Since t p) (ht : start ≤ t) : Since start p := fun m hm => Nat.le_trans ht (h m hm)

theorem since_ended {route : Route} {before : SessionState} {again : Nat → ProcessError → Plan}
    {ending : Option (Nat × Except ProcessError Unit)} (he : ∀ a ∈ ending, start ≤ a.1)
    (h : ∀ t e, start ≤ t → Since start (again t e)) : Since start (x.ended n route before again ending) := by
  match ending with
  | none => exact since_nil
  | some (t, .ok _) => exact since_cons (he _ rfl) since_nil
  | some (t, .error e) => exact since_cons (he _ rfl) (h t e (he _ rfl))

theorem since_followed {route : Route} {again : Nat → ProcessError → Plan} {a : Attempt}
    (hr : ∀ t ∈ a.running, start ≤ t) (he : ∀ y ∈ a.ending, start ≤ y.1)
    (h : ∀ t e, start ≤ t → Since start (again t e)) : Since start (x.followed n route again a) := by
  unfold followed
  split
  · rename_i t ht
    exact since_cons (hr t ht) (since_ended he h)
  · exact since_ended he h

theorem since_launched {s : CaptureScript} {now launch deadline : Nat} (hc : now ≤ min (launch + x.confirm) deadline)
    (ht : ∀ life ∈ s.lifetime, now ≤ launch + life) : (∀ t ∈ (x.launched s launch deadline).running, now ≤ t) ∧
    ∀ y ∈ (x.launched s launch deadline).ending, now ≤ y.1 := by
  unfold launched
  cases hs : s.lifetime with
  | none => simpa using hc
  | some life =>
    have hlife := ht life hs
    simp only
    split
    · simpa using hlife
    · simpa [hlife] using hc

theorem since_attempt {s : CaptureScript} {now start : Nat} (hd : now ≤ start + x.timeout)
    (ht : ∀ time ∈ s.launchTime, now ≤ start + time) : (∀ t ∈ (x.attempt s start).running, now ≤ t) ∧
    ∀ y ∈ (x.attempt s start).ending, now ≤ y.1 := by
  unfold attempt
  cases hs : s.launchTime with
  | none => simpa using hd
  | some time =>
    have htime := ht time hs
    simp only
    split
    · simpa using hd
    · cases s.started with
      | error e => simpa using htime
      | ok _ => exact since_launched (by omega) fun _ _ => by omega

theorem since_planFrom (left n start : Nat) (previous : Option SessionState) :
    Since start (x.planFrom left n start previous) := by
  have hopened : ∀ {n start previous} {again : Route → Nat → ProcessError → Plan},
      (∀ route t e, start ≤ t → Since start (again route t e)) → Since start (x.opened n start previous again) := by
    intro n start previous again h
    unfold opened
    split
    · exact since_cons (Nat.le_refl _) (since_cons (Nat.le_refl _) since_nil)
    · obtain ⟨hr, he⟩ := since_attempt (x := x) (s := x.script n) (Nat.le_add_right start _)
        fun _ _ => Nat.le_add_right ..
      exact since_cons (Nat.le_refl _) (since_cons (Nat.le_refl _) (since_followed hr he (h _)))
  induction left generalizing n start previous with
  | zero => exact hopened fun _ _ _ ht => since_cons ht since_nil
  | succ left ih =>
    refine hopened fun _ t _ ht => ?_
    cases x.pause? n with
    | none => exact since_nil
    | some pause => exact (ih (n + 1) (t + pause) _).of_le (by omega)

theorem since_again (left n : Nat) (route : Route) (e : ProcessError) (ht : start ≤ t) :
    Since start (x.again left n route t e) := by
  cases left with
  | zero => exact since_cons ht since_nil
  | succ left =>
    simp only [again]
    cases x.pause? n with
    | none => exact since_nil
    | some pause => exact (since_planFrom left (n + 1) (t + pause) _).of_le (by omega)

end Scenario
end ProxyWatch
