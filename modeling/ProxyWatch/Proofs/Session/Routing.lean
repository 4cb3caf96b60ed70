import ProxyWatch.Proofs.Selection.Ranking
import ProxyWatch.Proofs.Session.Plan
import ProxyWatch.Proofs.Session.Running

/-! What the captures of a session go through. Whatever becomes of the registry while a session runs, each attempt
reports and launches what is selected at its beginning. -/
namespace ProxyWatch

def Transition.event (t : Transition) : Event :=
  .sessionChanged t.target t.previous t.current t.attempt t.route t.error

/-- What a step lets be seen. -/
def SessionTrace.marks (t : SessionTrace) : List Mark := t.events.map .report ++ t.calls.map .call

/-- What is seen of a session, in order, each time with the endpoints that are known then. -/
abbrev Timeline := List (List Endpoint × Mark)

/-- What is seen of a run that has some chances. -/
def SessionRun.timeline (r : SessionRun) : List Chance → Timeline
  | [] => []
  | .stop :: chances => timeline { r with session := r.session.stop } chances
  | .go launcher now clock endpoints :: chances =>
    match r.step launcher now clock endpoints with
    | some (r, trace) => trace.marks.map (endpoints, ·) ++ timeline r chances
    | none => timeline r chances

/-- The report that an attempt has failed for want of a route. -/
def refusal (target : String) (n : Nat) (e : SelectionError) : Transition where
  target
  previous := some .starting
  current := .failed
  attempt := n
  route := none
  error := some e.message

/-- What is seen from the report of a beginning on: what is selected from the endpoints is what is reported, and what
is launched through next. If nothing is selected, the session fails. -/
def FollowsSelection (target : String) (fallback : Bool) (es : List Endpoint) (t : Transition) (post : Timeline) :
    Prop :=
  match Selection.select es fallback with
  | .ok choice => t.route = some choice.route ∧ ∃ rest, post =
      (es, .call (.launch { target, proxy := choice.proxyUrl, attempt := t.attempt })) :: rest
  | .error e => t.route = none ∧ post = [(es, .report (refusal target t.attempt e).event)]

/-- A session is routed as is selected at the beginning of each attempt. -/
structure AsSelected (target : String) (fallback : Bool) (line : Timeline) : Prop where
  /-- Each report is one of the session. -/
  own : ∀ m ∈ line, ∀ e, m.2 = .report e → ∃ t : Transition, t.target = target ∧ e = t.event
  starting : ∀ pre es (t : Transition) post, line = pre ++ (es, .report t.event) :: post → t.current = .starting →
    FollowsSelection target fallback es t post
  /-- Nothing is launched but right after the report of a beginning, as it is reported. -/
  launch : ∀ pre es l post, line = pre ++ (es, .call (.launch l)) :: post → ∃ before, ∃ t : Transition,
    pre = before ++ [(es, .report t.event)] ∧ t.current = .starting ∧ l.attempt = t.attempt
  /-- Until the next beginning the attempt and its route stay. -/
  kept : ∀ pre es (t : Transition) mid es' (t' : Transition) post,
    line = pre ++ (es, .report t.event) :: (mid ++ (es', .report t'.event) :: post) → t.current = .starting →
    (∀ m ∈ mid, ∀ u : Transition, m.2 = .report u.event → u.current ≠ .starting) → t'.current ≠ .starting →
    t'.attempt = t.attempt ∧ t'.route = t.route
  /-- A capture goes through an endpoint that is in use and that a probe has proven usable just then, or directly if
  there is none and that is allowed. -/
  proven : ∀ es l, (es, .call (.launch l)) ∈ line → l.target = target ∧ match l.proxy with
    | some url => ∃ e ∈ es, e.url = url ∧ e.enabled = true ∧ (e.status = .healthy ∨ e.status = .degraded)
    | none => fallback = true ∧ ∀ e ∈ es, e.enabled = true → e.status = .unknown ∨ e.status = .failed

/-! From one thing that is seen to the next -/

/-- Where a session is between two things that are seen of it. -/
inductive Routing
  /-- In an attempt with its route, or before the first one. -/
  | within (n : Nat) (route : Option Route)
  /-- It is to launch what it has selected from some endpoints. -/
  | due (es : List Endpoint) (choice : Choice) (n : Nat)
  /-- It is to fail, since nothing could be selected from some endpoints. -/
  | refused (es : List Endpoint) (e : SelectionError) (n : Nat)
  | ended (n : Nat)

namespace Routing

/-- The present attempt and its route. -/
def assigned : Routing → Nat × Option Route
  | within n route => (n, route)
  | due _ choice n => (n, some choice.route)
  | refused _ _ n | ended n => (n, none)

/-- Nothing is left to be seen at this instant. -/
def Settled : Routing → Prop
  | within .. | ended _ => True
  | due .. | refused .. => False

end Routing

/-- What can be seen next. -/
inductive Follows (target : String) (fallback : Bool) (m : List Endpoint × Mark) : Routing → Routing → Prop
  | begun {n : Nat} {route : Option Route} {choice : Choice} {t : Transition}
      (h : Selection.select m.1 fallback = .ok choice) (hm : m.2 = .report t.event) (ht : t.target = target)
      (hs : t.current = .starting) (hr : t.route = some choice.route) :
      Follows target fallback m (.within n route) (.due m.1 choice t.attempt)
  | launched {n : Nat} {choice : Choice} (h : Selection.select m.1 fallback = .ok choice)
      (hm : m.2 = .call (.launch { target, proxy := choice.proxyUrl, attempt := n })) :
      Follows target fallback m (.due m.1 choice n) (.within n (some choice.route))
  | refused {n : Nat} {route : Option Route} {e : SelectionError} {t : Transition}
      (h : Selection.select m.1 fallback = .error e) (hm : m.2 = .report t.event) (ht : t.target = target)
      (hs : t.current = .starting) (hr : t.route = none) :
      Follows target fallback m (.within n route) (.refused m.1 e t.attempt)
  | failed {n : Nat} {e : SelectionError} (hm : m.2 = .report (refusal target n e).event) :
      Follows target fallback m (.refused m.1 e n) (.ended n)
  | told {n : Nat} {route : Option Route} {t : Transition} (hm : m.2 = .report t.event) (ht : t.target = target)
      (hs : t.current ≠ .starting) (ha : (t.attempt, t.route) = (n, route)) :
      Follows target fallback m (.within n route) (.within n route)
  | called {n : Nat} {route : Option Route} {c : CaptureCall} (hm : m.2 = .call c) (hc : ∀ l, c ≠ .launch l) :
      Follows target fallback m (.within n route) (.within n route)

/-- A timeline leads from one point to another. -/
def Leads (target : String) (fallback : Bool) : Routing → Timeline → Routing → Prop
  | p, [], q => p = q
  | p, m :: line, q => ∃ p', Follows target fallback m p p' ∧ Leads target fallback p' line q

/-- What is seen between two beginnings. -/
def Mark.Keeps (target : String) (n : Nat) (route : Option Route) : Mark → Prop
  | .report e => ∃ t : Transition, e = t.event ∧ t.target = target ∧ t.current ≠ .starting ∧
    (t.attempt, t.route) = (n, route)
  | .call c => ∀ l, c ≠ .launch l

section
variable {target : String} {fallback : Bool} {n : Nat} {route : Option Route} {line : Timeline}
  {es : List Endpoint}

theorem leads_append {p q : Routing} {line line' : Timeline} : Leads target fallback p (line ++ line') q ↔
    ∃ p', Leads target fallback p line p' ∧ Leads target fallback p' line' q := by
  induction line generalizing p with
  | nil => exact ⟨fun h => ⟨p, rfl, h⟩, fun ⟨_, hp, h⟩ => hp ▸ h⟩
  | cons m line ih =>
    constructor
    · rintro ⟨p', hm, h⟩
      obtain ⟨p'', hl, hl'⟩ := ih.mp h
      exact ⟨p'', ⟨p', hm, hl⟩, hl'⟩
    · rintro ⟨p'', ⟨p', hm, hl⟩, hl'⟩
      exact ⟨p', hm, ih.mpr ⟨p'', hl, hl'⟩⟩

theorem leads_of_keeps {ms : List Mark} (hm : ∀ m ∈ ms, m.Keeps target n route) :
    Leads target fallback (.within n route) (ms.map (es, ·)) (.within n route) := by
  induction ms with
  | nil => rfl
  | cons m ms ih =>
    have hrest := ih fun m' hm' => hm m' (List.mem_cons_of_mem _ hm')
    have hkeeps := hm m List.mem_cons_self
    cases m with
    | report e =>
      obtain ⟨t, he, ht, hs, ha⟩ := hkeeps
      exact ⟨_, .told (congrArg Mark.report he) ht hs ha, hrest⟩
    | call c => exact ⟨_, .called rfl hkeeps, hrest⟩

/-! The steps of a session -/

variable {s s' : Session} {v : SessionView} {acts : List SessionAct}

/-- The act reports nothing but a later state of the attempt, and launches nothing. -/
def SessionAct.Keeps (target : String) (n : Nat) (route : Option Route) : SessionAct → Prop
  | .report e => (Mark.report e).Keeps target n route
  | .launch .. => False
  | _ => True

theorem keeps_announcement {previous : Option SessionState} {r : SessionRecord} (hs : r.state ≠ .starting) :
    ∀ a ∈ announcement previous r, a.Keeps r.target r.attempt r.route := by
  intro a ha
  simp only [announcement, List.mem_cons, List.not_mem_nil, or_false] at ha
  rcases ha with rfl | rfl
  · exact ⟨r.transition previous, rfl, rfl, hs, rfl⟩
  · trivial

theorem Session.Failure.keeps {e : ProcessError} (h : Session.Failure s v acts e) :
    ∀ a ∈ acts, a.Keeps target n route := by
  cases h <;> simp [SessionAct.Keeps]

theorem Session.Stop.keeps (h : Session.Stop s v acts) : ∀ a ∈ acts, a.Keeps target n route := by
  cases h <;> simp [SessionAct.Keeps]

/-- A step begins an attempt, which is refused or launched as is selected, or it stays in the attempt. -/
theorem step_routes (h : Session.Step s v s' acts) :
    (∃ e, Selection.select v.endpoints s.options.fallback = .error e ∧ s'.phase = .over ∧ acts =
      announcement s.previous (s.opening v none (some e.message)) ++
        announcement (some .starting) { s.opening v none (some e.message) with state := .failed }) ∨
    (∃ choice, Selection.select v.endpoints s.options.fallback = .ok choice ∧
      s'.record = s.opening v (some choice.route) s.record.error ∧ acts =
        announcement s.previous (s.opening v (some choice.route) s.record.error) ++
          [.launch choice.proxyUrl (s.record.attempt + 1)]) ∨
    (s'.record.attempt = s.record.attempt ∧ s'.record.route = s.record.route ∧
      ∀ a ∈ acts, a.Keeps s.record.target s.record.attempt s.record.route) := by
  cases h with
  | refused _ _ hv => exact .inl ⟨_, hv, rfl, rfl⟩
  | launched _ _ hv => exact .inr (.inl ⟨_, hv, rfl, rfl⟩)
  | kept | shutDown | killed => exact .inr (.inr ⟨rfl, rfl, by simp [SessionAct.Keeps]⟩)
  | @confirmed t => exact .inr (.inr ⟨rfl, rfl, keeps_announcement (by simp)⟩)
  | @rested _ e _ _ hf | @vanished _ e _ hf =>
    refine .inr (.inr ⟨rfl, rfl, List.forall_mem_append.mpr ⟨hf.keeps, ?_⟩⟩)
    exact keeps_announcement (r := s.failing v e) (by simp [Session.failing])
  | @spent _ e _ hf =>
    refine .inr (.inr ⟨rfl, rfl, List.forall_mem_append.mpr ⟨hf.keeps, List.forall_mem_append.mpr ⟨?_, ?_⟩⟩⟩)
    · exact keeps_announcement (r := s.failing v e) (by simp [Session.failing])
    · exact keeps_announcement (r := { s.failing v e with state := .failed }) (by simp)
  | stopped hs =>
    refine .inr (.inr ⟨rfl, rfl, List.forall_mem_append.mpr ⟨hs.keeps, ?_⟩⟩)
    exact keeps_announcement (r := { s.record with state := .stopped, changed := v.clock }) (by simp)

/-! Runs -/

variable {r r' : SessionRun} {trace : SessionTrace} {launcher : Launch → CaptureScript} {now : Nat} {clock : Timestamp}

theorem SessionRun.timeline_of_over (h : r.session.phase = .over) (chances : List Chance) :
    r.timeline chances = [] := by
  induction chances generalizing r with
  | nil => rfl
  | cons chance chances ih =>
    cases chance with
    | stop => exact ih h
    | go launcher now clock endpoints =>
      have hs : r.step launcher now clock endpoints = none := by
        simp [step, Session.step_of_done (.inl h)]
      rw [timeline, hs]
      exact ih h

/-- What is seen of a step are its reports and its calls. -/
theorem SessionRun.step_marks (hf : r.hold.Fits r.session.phase)
    (h : r.step launcher now clock es = some (r', trace)) : ∃ acts,
    Session.Step r.session (r.view now clock es) r'.session acts ∧ r'.hold.Fits r'.session.phase ∧
      trace.marks = (acts.filterMap SessionAct.event?).map .report ++
        (acts.filterMap (SessionAct.call? r.target)).map .call := by
  unfold step at h
  split at h
  · obtain ⟨⟨s, acts⟩, hstep, he⟩ := Option.map_eq_some_iff.mp h
    have hc : Session.Step r.session (r.view now clock es) s acts := Session.step_cases hstep
    have ht : ({ r with session := s } : SessionRun).target = r.target := hc.target_eq
    obtain ⟨rfl, rfl⟩ := Prod.mk.inj he
    refine ⟨acts, by rwa [session_foldl], ?_, ?_⟩
    · rw [session_foldl]
      exact step_fits (x := ({ r with session := s }, {})) hc hf
    · rw [SessionTrace.marks, events_foldl, step_calls (x := ({ r with session := s }, {})) hc hf, ht]
      rfl
  · cases h

/-- Acts that keep to the attempt are seen to do so. -/
theorem keeps_marks (h : ∀ a ∈ acts, a.Keeps target n route) :
    ∀ m ∈ (acts.filterMap SessionAct.event?).map Mark.report ++
      (acts.filterMap (SessionAct.call? target)).map Mark.call, m.Keeps target n route := by
  intro m hm
  rcases List.mem_append.mp hm with hm | hm
  · obtain ⟨e, he, rfl⟩ := List.mem_map.mp hm
    obtain ⟨a, ha, hae⟩ := List.mem_filterMap.mp he
    have hkeeps := h a ha
    cases a with
    | report => cases hae; exact hkeeps
    | _ => cases hae
  · obtain ⟨c, hc, rfl⟩ := List.mem_map.mp hm
    obtain ⟨a, ha, hac⟩ := List.mem_filterMap.mp hc
    have hkeeps := h a ha
    cases a with
    | launch => exact hkeeps.elim
    | terminate | kill =>
      cases hac
      exact fun l => by simp
    | _ => cases hac

theorem SessionRun.leads_timeline (hf : r.hold.Fits r.session.phase) (chances : List Chance) :
    ∃ q : Routing, q.Settled ∧ Leads r.target r.session.options.fallback
      (.within r.session.record.attempt r.session.record.route) (r.timeline chances) q := by
  induction chances generalizing r with
  | nil => exact ⟨.within .., trivial, rfl⟩
  | cons chance chances ih =>
    cases chance with
    | stop => exact ih (r := { r with session := r.session.stop }) hf
    | go launcher now clock es =>
      cases hs : r.step launcher now clock es with
      | none =>
        rw [timeline, hs]
        exact ih hf
      | some x =>
        obtain ⟨r', trace⟩ := x
        obtain ⟨acts, hstep, hf', hmarks⟩ := step_marks hf hs
        obtain ⟨q, hq, hrest⟩ := ih hf'
        rw [target, hstep.target_eq, hstep.options_eq] at hrest
        rw [timeline, hs]
        simp only [hmarks]
        rcases step_routes hstep with ⟨e, hsel, hover, rfl⟩ | ⟨choice, hsel, hrecord, rfl⟩ | ⟨hn, hroute, hkeeps⟩
        · rw [timeline_of_over hover, List.append_nil]
          let t := (r.session.opening (r.view now clock es) none (some e.message)).transition r.session.previous
          exact ⟨.ended _, trivial, _, .refused (t := t) hsel rfl rfl rfl rfl, _, .failed rfl, rfl⟩
        · rw [hrecord] at hrest
          let t := (r.session.opening (r.view now clock es) (some choice.route) r.session.record.error).transition
            r.session.previous
          exact ⟨q, hq, _, .begun (t := t) hsel rfl rfl rfl rfl, _, .launched hsel rfl, hrest⟩
        · rw [hn, hroute] at hrest
          exact ⟨q, hq, leads_append.mpr ⟨_, leads_of_keeps (keeps_marks hkeeps), hrest⟩⟩

/-! What is found at a place of a timeline -/

variable {p p' q : Routing} {m : List Endpoint × Mark} {t t' : Transition} {pre mid post : Timeline} {l : Launch}

theorem Transition.eq_of_event (h : t.event = t'.event) : t = t' := by
  obtain ⟨_, _, _, _, _, _⟩ := t
  obtain ⟨_, _, _, _, _, _⟩ := t'
  cases h
  rfl

/-- A beginning goes by what is selected. -/
theorem Follows.of_starting (h : Follows target fallback m p q) (hm : m.2 = .report t.event)
    (hs : t.current = .starting) :
    (∃ choice, Selection.select m.1 fallback = .ok choice ∧ t.route = some choice.route ∧
      q = .due m.1 choice t.attempt) ∨
    ∃ e, Selection.select m.1 fallback = .error e ∧ t.route = none ∧ q = .refused m.1 e t.attempt := by
  cases h with
  | begun hsel hm' _ _ hr =>
    obtain rfl := Transition.eq_of_event (Mark.report.inj (hm'.symm.trans hm))
    exact .inl ⟨_, hsel, hr, rfl⟩
  | refused hsel hm' _ _ hr =>
    obtain rfl := Transition.eq_of_event (Mark.report.inj (hm'.symm.trans hm))
    exact .inr ⟨_, hsel, hr, rfl⟩
  | failed hm' =>
    obtain rfl := Transition.eq_of_event (Mark.report.inj (hm'.symm.trans hm))
    cases hs
  | told hm' _ hs' =>
    obtain rfl := Transition.eq_of_event (Mark.report.inj (hm'.symm.trans hm))
    exact (hs' hs).elim
  | launched _ hm' | called hm' => exact Mark.noConfusion (hm'.symm.trans hm)

/-- What isn't a beginning leaves the attempt and its route as they are. -/
theorem Follows.assigned_eq (h : Follows target fallback m p q)
    (hm : ∀ t : Transition, m.2 = .report t.event → t.current ≠ .starting) : q.assigned = p.assigned := by
  cases h with
  | begun _ hm' _ hs | refused _ hm' _ hs => exact (hm _ hm' hs).elim
  | launched | failed | told | called => rfl

/-- What is reported but a beginning names the attempt and its route. -/
theorem Follows.assigned_of_report (h : Follows target fallback m p q) (hm : m.2 = .report t.event)
    (hs : t.current ≠ .starting) : (t.attempt, t.route) = p.assigned := by
  cases h with
  | begun _ hm' _ hs' | refused _ hm' _ hs' =>
    obtain rfl := Transition.eq_of_event (Mark.report.inj (hm'.symm.trans hm))
    exact (hs hs').elim
  | failed hm' =>
    obtain rfl := Transition.eq_of_event (Mark.report.inj (hm'.symm.trans hm))
    rfl
  | told hm' _ _ ha =>
    obtain rfl := Transition.eq_of_event (Mark.report.inj (hm'.symm.trans hm))
    exact ha
  | launched _ hm' | called hm' => exact Mark.noConfusion (hm'.symm.trans hm)

theorem Follows.of_launch (h : Follows target fallback m p q) (hm : m.2 = .call (.launch l)) :
    ∃ choice, Selection.select m.1 fallback = .ok choice ∧ p = .due m.1 choice l.attempt ∧
      l = { target, proxy := choice.proxyUrl, attempt := l.attempt } := by
  cases h with
  | launched hsel hm' =>
    cases hm'.symm.trans hm
    exact ⟨_, hsel, rfl, rfl⟩
  | called hm' hc => exact (hc l (Mark.call.inj (hm'.symm.trans hm))).elim
  | begun _ hm' | refused _ hm' | failed hm' | told hm' => exact Mark.noConfusion (hm'.symm.trans hm)

/-- A launch is due only after the report of a beginning. -/
theorem Follows.of_due {choice : Choice} (h : Follows target fallback m p (.due es choice n)) :
    ∃ t : Transition, m = (es, .report t.event) ∧ t.current = .starting ∧ t.attempt = n := by
  obtain ⟨es', mark⟩ := m
  cases h with
  | begun _ hm _ hs => exact ⟨_, congrArg _ hm, hs, rfl⟩

theorem Follows.own (h : Follows target fallback m p q) {e : Event} (hm : m.2 = .report e) :
    ∃ t : Transition, t.target = target ∧ e = t.event := by
  cases h with
  | begun _ hm' ht | refused _ hm' ht | told hm' ht => exact ⟨_, ht, Mark.report.inj (hm.symm.trans hm')⟩
  | failed hm' => exact ⟨_, rfl, Mark.report.inj (hm.symm.trans hm')⟩
  | launched _ hm' | called hm' => exact Mark.noConfusion (hm'.symm.trans hm)

/-- Everything that is seen is seen at some point. -/
theorem Leads.exists_follows (h : Leads target fallback p line q) (hm : m ∈ line) :
    ∃ p' q', Follows target fallback m p' q' := by
  obtain ⟨pre, post, rfl⟩ := List.append_of_mem hm
  obtain ⟨p', -, q', hm, -⟩ := leads_append.mp h
  exact ⟨p', q', hm⟩

theorem Leads.assigned_eq (h : Leads target fallback p line q)
    (hl : ∀ m ∈ line, ∀ t : Transition, m.2 = .report t.event → t.current ≠ .starting) :
    q.assigned = p.assigned := by
  induction line generalizing p with
  | nil => rw [show p = q from h]
  | cons m line ih =>
    obtain ⟨p', hm, h⟩ := h
    rw [ih h fun m' hm' => hl m' (List.mem_cons_of_mem _ hm'), hm.assigned_eq (hl m List.mem_cons_self)]

theorem Leads.followsSelection (h : Leads target fallback p ((es, .report t.event) :: post) q) (hq : q.Settled)
    (hs : t.current = .starting) : FollowsSelection target fallback es t post := by
  obtain ⟨p', hm, h⟩ := h
  rcases hm.of_starting rfl hs with ⟨choice, hsel, hr, rfl⟩ | ⟨e, hsel, hr, rfl⟩
  · rw [FollowsSelection, hsel]
    cases post with
    | nil =>
      obtain rfl : _ = q := h
      exact hq.elim
    | cons m post =>
      obtain ⟨_, hm, -⟩ := h
      obtain ⟨es', mark⟩ := m
      cases hm with
      | launched _ hm => exact ⟨hr, post, congrArg (fun x => (es, x) :: post) hm⟩
  · rw [FollowsSelection, hsel]
    cases post with
    | nil =>
      obtain rfl : _ = q := h
      exact hq.elim
    | cons m post =>
      obtain ⟨_, hm, h⟩ := h
      obtain ⟨es', mark⟩ := m
      cases hm with
      | failed hm =>
        cases post with
        | nil => exact ⟨hr, congrArg (fun x => [(es, x)]) hm⟩
        | cons m post =>
          obtain ⟨_, hm, -⟩ := h
          cases hm

theorem Leads.asSelected (h : Leads target fallback (.within n route) line q) (hq : q.Settled) :
    AsSelected target fallback line := by
  constructor
  case own =>
    intro m hm e he
    obtain ⟨_, _, hm⟩ := h.exists_follows hm
    exact hm.own he
  case starting =>
    rintro pre es t post rfl hs
    obtain ⟨p, -, h⟩ := leads_append.mp h
    exact h.followsSelection hq hs
  case launch =>
    rintro pre es l post rfl
    obtain ⟨p, hpre, q', hm, -⟩ := leads_append.mp h
    obtain ⟨choice, -, rfl, -⟩ := hm.of_launch rfl
    rcases List.eq_nil_or_concat pre with rfl | ⟨before, m, rfl⟩
    · cases hpre
    · rw [List.concat_eq_append] at hpre ⊢
      obtain ⟨p', -, _, hm, rfl⟩ := leads_append.mp hpre
      obtain ⟨t, rfl, hs, hn⟩ := hm.of_due
      exact ⟨before, t, rfl, hs, hn.symm⟩
  case kept =>
    rintro pre es t mid es' t' post rfl hs hmid hs'
    obtain ⟨p, -, p', hm, h⟩ := leads_append.mp h
    obtain ⟨p'', hl, q', hm', -⟩ := leads_append.mp h
    have hassigned : p'.assigned = (t.attempt, t.route) := by
      rcases hm.of_starting rfl hs with ⟨choice, -, hr, rfl⟩ | ⟨e, -, hr, rfl⟩ <;> rw [hr] <;> rfl
    have hreport := hm'.assigned_of_report rfl hs'
    rw [hl.assigned_eq hmid, hassigned] at hreport
    exact Prod.mk.inj hreport
  case proven =>
    intro es l hl
    obtain ⟨_, _, hm⟩ := h.exists_follows hl
    obtain ⟨choice, hsel, -, hl⟩ := hm.of_launch rfl
    rw [hl]
    refine ⟨rfl, ?_⟩
    cases choice with
    | endpoint e =>
      obtain ⟨he, hc, -⟩ := Selection.select_endpoint hsel
      obtain ⟨hen, hs⟩ := Selection.isCandidate_iff.mp hc
      exact ⟨e, he, rfl, hen, hs⟩
    | direct =>
      obtain ⟨hf, hnone⟩ := Selection.select_direct hsel
      exact ⟨hf, fun e he hen => Selection.status_of_not_isCandidate (hnone e he) hen⟩

end

/-- Whatever the registry holds at each instant, a session reports and launches what is selected at the beginning of
each attempt. -/
theorem session_asSelected (o : SessionOptions) (target : String) (clock : Timestamp)
    (chances : List SessionRun.Chance) : AsSelected target o.fallback
      (SessionRun.timeline { session := .ofTarget o target clock } chances) := by
  obtain ⟨q, hq, h⟩ := SessionRun.leads_timeline (r := { session := .ofTarget o target clock }) trivial chances
  exact h.asSelected hq

end ProxyWatch
