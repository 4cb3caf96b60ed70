import Mathlib.Logic.Function.Basic
import ProxyWatch.Proofs.Service.Soundness
import ProxyWatch.Proofs.Session.Acting

/-! The sessions of a service, whose single acts are interleaved in any way with each other and with calls. No two
sessions of a target are under way at once, and no two of them hold a capture. -/
namespace ProxyWatch

open Actor

/-- A service down to the single acts of its sessions. -/
structure Stage where
  service : Service
  /-- What the session of each target has still to do of the step that it is in. -/
  todo : String → List SessionAct := fun _ => []
  /-- The sessions whose places later ones have taken. -/
  past : List Actor := []

/-- The service with a session in the place of the one of its target. -/
def Service.withRun (s : Service) (r : SessionRun) : Service :=
  { s with watch := { s.watch with runs := s.watch.runs.map fun x => if x.target = r.target then r else x } }

/-- A session goes on, or else no session is touched. -/
theorem Watch.Stir.runs_cases {w w' : Watch} (h : Watch.Stir w w') :
    w'.runs = w.runs ∨ ∃ r ∈ w.runs, w.runStep? r = some w' := by
  cases h with
  | pass | drop | loop => exact .inl rfl
  | send h =>
    obtain ⟨_, _, _, _, -, -, -, -, rfl⟩ := Watch.startRound_shape h
    exact .inl rfl
  | go hr h => exact .inr ⟨_, hr, h⟩
  | @land _ key r _ h =>
    obtain ⟨f, flights, _, rfl⟩ := Watch.land_spec h
    obtain ⟨_, _, _, -, ho⟩ := w.outcome_shape r f
    rw [Watch.landed, ho]
    exact .inl rfl

namespace Stage

/-- All sessions of a target so far. -/
def sessions (st : Stage) (target : String) : List SessionRun :=
  (st.past.map (·.1) ++ st.service.watch.runs).filter (·.target = target)

/-- One thing that happens. -/
inductive Move (st : Stage) : Stage → Prop
  /-- Something happens to a target's session. -/
  | current {r r' : SessionRun} {todo : List SessionAct} (hr : r ∈ st.service.watch.runs)
      (h : Acting (r, st.todo r.target) (r', todo)) :
      Move st { st with service := st.service.withRun r', todo := Function.update st.todo r.target todo }
  /-- Something happens to a session whose place another one has taken. -/
  | late {before after : List Actor} {x y : Actor} (hp : st.past = before ++ x :: after) (h : Acting x y) :
      Move st { st with past := before ++ y :: after }
  | start {target : String} {s : Service} {record : SessionRecord}
      (h : st.service.startSession target = (s, .ok record)) :
      Move st { service := s
                todo := Function.update st.todo target []
                past := st.past ++
                  (st.service.watch.runs.filter (·.target = target)).map fun r => (r, st.todo target) }
  /-- Something that no session has to do with. -/
  | rest {s : Service} (hr : s.watch.runs = st.service.watch.runs) : Move st { st with service := s }

/-- Any number of moves. -/
abbrev Moves : Stage → Stage → Prop := Relation.ReflTransGen Move

/-- The states that a service can come into, from when it is built. -/
inductive Reachable : Stage → Prop
  | built {config : Config} {registry : Option Registry} {w : Watch} {s : Service}
      (h : Service.build config registry w = .ok s) : Reachable { service := s }
  | move {st st' : Stage} (h : Reachable st) (hm : Move st st') : Reachable st'

/-- No session is in the midst of a step. -/
def Quiet (st : Stage) : Prop := ∀ target, st.todo target = []

/-- What holds of the sessions of a service at any time. -/
structure Exclusive (st : Stage) : Prop where
  /-- At most one session of a target is under way. -/
  active : ∀ target, (st.sessions target).countP (!·.isFinished) ≤ 1
  /-- At most one session of a target holds a capture. -/
  held : ∀ target, (st.sessions target).countP (·.hold.isCapture) ≤ 1
  /-- A session that displays a final state holds none. -/
  final : ∀ target, ∀ r ∈ st.sessions target, r.isFinished = true → r.hold.isCapture = false
  /-- When a session is about to launch a capture, no session of its target holds one. -/
  launch : ∀ r ∈ st.service.watch.runs, ∀ proxy attempt rest, st.todo r.target = .launch proxy attempt :: rest →
    ∀ x ∈ st.sessions r.target, x.hold.isCapture = false
  /-- The sessions whose places others have taken launch nothing. -/
  retired : ∀ x ∈ st.past, x.1.isFinished = true ∧ x.2 = []
  /-- A session is refused exactly if the target's current one is under way. -/
  refused : ∀ target, (st.service.startSession target).2 = .error (.sessionActive target) ↔
    ∃ r, st.service.watch.run? target = some r ∧ r.isFinished = false
  /-- There is no other error, and an error changes nothing. -/
  unchanged : ∀ target e, (st.service.startSession target).2 = .error e →
    e = .sessionActive target ∧ (st.service.startSession target).1 = st.service
  /-- Everything that happens to the service is made of moves, and so is every call. -/
  steps : Quiet st → ∀ s, Service.Steps st.service s → ∃ st', Moves st st' ∧ Quiet st' ∧ st'.service = s
  calls : Quiet st → ∀ c : Service.Call, c.Bounded →
    ∃ st', Moves st st' ∧ Quiet st' ∧ st'.service = st.service.after c

/-! What every move keeps -/

/-- The sessions are poised, those of the past are over, and each target has one. -/
structure Kept (st : Stage) : Prop where
  nodup : (st.service.watch.runs.map SessionRun.target).Nodup
  current : ∀ r ∈ st.service.watch.runs, Poised (r, st.todo r.target)
  past : ∀ x ∈ st.past, Poised x ∧ x.1.isFinished = true

section
variable {s s' : Service} {st st' : Stage} {target : String} {r r' : SessionRun}

theorem startSession_of_active (h : (s.watch.run? target).any (!·.isFinished) = true) :
    s.startSession target = (s, .error (.sessionActive target)) := if_pos h

theorem startSession_of_free (h : (s.watch.run? target).any (!·.isFinished) = false) :
    s.startSession target = ({ s with watch := { s.watch with
      runs := s.watch.runs.filter (·.target != target) ++
        [{ session := Session.ofTarget s.config.sessionOptions target s.watch.clock }] } },
      .ok (Session.ofTarget s.config.sessionOptions target s.watch.clock).record) :=
  if_neg (by simp [h])

/-- A session is refused exactly if one of its target is under way. -/
theorem startSession_refused_iff : (s.startSession target).2 = .error (.sessionActive target) ↔
    ∃ r, s.watch.run? target = some r ∧ r.isFinished = false := by
  cases hany : (s.watch.run? target).any (!·.isFinished) with
  | true =>
    rw [startSession_of_active hany]
    simpa [Option.any_eq_true] using hany
  | false =>
    rw [startSession_of_free hany]
    simp only [reduceCtorEq, false_iff]
    rintro ⟨r, hr, hf⟩
    simp [hr, hf] at hany

/-- Whatever is refused is refused for that, and nothing changes. -/
theorem startSession_error {e : ServiceError} (h : (s.startSession target).2 = .error e) :
    e = .sessionActive target ∧ (s.startSession target).1 = s := by
  cases hany : (s.watch.run? target).any (!·.isFinished) with
  | true =>
    rw [startSession_of_active hany] at h ⊢
    exact ⟨(Except.error.inj h).symm, rfl⟩
  | false =>
    rw [startSession_of_free hany] at h
    cases h

theorem target_of_run? (h : s.watch.run? target = some r) : r.target = target := by
  simpa using List.find?_some h

/-- The session of a target is found. -/
theorem run?_of_mem (hn : (s.watch.runs.map SessionRun.target).Nodup) (hr : r ∈ s.watch.runs) :
    s.watch.run? r.target = some r := by
  cases hf : s.watch.run? r.target with
  | none =>
    have hne := List.find?_eq_none.mp hf r hr
    simp at hne
  | some x =>
    have hx : x ∈ s.watch.runs := List.mem_of_find?_eq_some hf
    exact congrArg some (List.inj_on_of_nodup_map hn hx hr (target_of_run? hf))

theorem withRun_targets : (s.withRun r).watch.runs.map SessionRun.target = s.watch.runs.map SessionRun.target := by
  simp only [Service.withRun, List.map_map]
  refine List.map_congr_left fun x _ => ?_
  by_cases h : x.target = r.target <;> simp [h]

theorem Kept.current_move {todo : List SessionAct} (h : Kept st) (hr : r ∈ st.service.watch.runs)
    (ha : Acting (r, st.todo r.target) (r', todo)) :
    Kept { st with service := st.service.withRun r', todo := Function.update st.todo r.target todo } := by
  have ht : r'.target = r.target := ha.target_eq
  constructor
  case nodup =>
    rw [withRun_targets]
    exact h.nodup
  case current =>
    intro y hy
    obtain ⟨x, hx, he⟩ := List.mem_map.mp hy
    by_cases hxr : x.target = r'.target
    · rw [if_pos hxr] at he
      subst he
      change Poised (r', Function.update st.todo r.target todo r'.target)
      rw [ht, Function.update_self]
      exact (h.current r hr).acting ha
    · rw [if_neg hxr] at he
      subst he
      change Poised (x, Function.update st.todo r.target todo x.target)
      rw [Function.update_of_ne fun he => hxr (he.trans ht.symm)]
      exact h.current x hx
  case past => exact h.past

theorem Kept.late_move {before after : List Actor} {x y : Actor} (h : Kept st) (hp : st.past = before ++ x :: after)
    (ha : Acting x y) : Kept { st with past := before ++ y :: after } := by
  refine ⟨h.nodup, h.current, fun z hz => ?_⟩
  obtain ⟨hx, hf⟩ := h.past x (by simp [hp])
  rcases List.mem_append.mp hz with hz | hz
  · exact h.past z (by simp [hp, hz])
  · rcases List.mem_cons.mp hz with rfl | hz
    · exact ⟨hx.acting ha, hx.finished hf ha⟩
    · exact h.past z (by simp [hp, hz])

theorem Kept.start_move {record : SessionRecord} (h : Kept st)
    (hs : st.service.startSession target = (s, .ok record)) :
    Kept { service := s
           todo := Function.update st.todo target []
           past := st.past ++ (st.service.watch.runs.filter (·.target = target)).map fun r => (r, st.todo target) } := by
  cases hany : (st.service.watch.run? target).any (!·.isFinished) with
  | true =>
    rw [startSession_of_active hany] at hs
    cases hs
  | false =>
    rw [startSession_of_free hany] at hs
    cases hs
    constructor
    case nodup =>
      rw [List.map_append, List.nodup_append]
      refine ⟨h.nodup.sublist (List.filter_sublist.map _), List.nodup_singleton _, ?_⟩
      intro a ha b hb
      obtain ⟨x, hx, rfl⟩ := List.mem_map.mp ha
      rw [List.mem_singleton.mp hb]
      have hne : x.target ≠ target := by simpa using (List.mem_filter.mp hx).2
      exact hne
    case current =>
      intro r hr
      change Poised (r, Function.update st.todo target [] r.target)
      rcases List.mem_append.mp hr with hr | hr
      · obtain ⟨hm, ht⟩ := List.mem_filter.mp hr
        rw [Function.update_of_ne (by simpa using ht)]
        exact h.current r hm
      · rw [List.mem_singleton.mp hr, show SessionRun.target _ = target from rfl, Function.update_self]
        exact poised_fresh _ rfl rfl
    case past =>
      intro x hx
      rcases List.mem_append.mp hx with hx | hx
      · exact h.past x hx
      · obtain ⟨r, hr, rfl⟩ := List.mem_map.mp hx
        obtain ⟨hm, ht⟩ := List.mem_filter.mp hr
        obtain rfl : r.target = target := by simpa using ht
        rw [run?_of_mem h.nodup hm] at hany
        exact ⟨h.current r hm, by simpa using hany⟩

theorem Kept.move (h : Kept st) (hm : Move st st') : Kept st' := by
  cases hm with
  | current hr ha => exact h.current_move hr ha
  | late hp ha => exact h.late_move hp ha
  | start hs => exact h.start_move hs
  | rest hr => exact ⟨hr ▸ h.nodup, fun r hm => h.current r (hr ▸ hm), h.past⟩

theorem runs_of_build {config : Config} {registry : Option Registry} {w : Watch}
    (h : Service.build config registry w = .ok s) : s.watch.runs = [] := by
  obtain ⟨_, store, rfl, _⟩ := Service.build_eq_ok h
  have hseeds : ∀ (seeds : List ProxySeed) (w : Watch), (seeds.foldl Service.seed w).runs = w.runs := by
    intro seeds
    induction seeds with
    | nil => exact fun _ => rfl
    | cons p seeds ih =>
      intro w
      rw [List.foldl_cons, ih]
      unfold Service.seed
      split <;> rfl
  exact hseeds _ _

theorem Reachable.kept (h : Reachable st) : Kept st := by
  induction h with
  | @built config registry w s hb =>
    have hr : s.watch.runs = [] := runs_of_build hb
    exact ⟨by simp [hr], by simp [hr], by simp⟩
  | move _ hm ih => exact ih.move hm

/-! Steps of the service -/

/-- What an act makes of a session. -/
def performed (launcher : Launch → CaptureScript) (now : Nat) (r : SessionRun) (a : SessionAct) : SessionRun :=
  (SessionRun.perform launcher now (r, {}) a).1

theorem perform_fst {launcher : Launch → CaptureScript} {now : Nat} {x : SessionRun × SessionTrace} {a : SessionAct} :
    (SessionRun.perform launcher now x a).1 = performed launcher now x.1 a := by
  cases a with
  | keep | terminate | kill =>
    simp only [performed, SessionRun.perform]
    split <;> rfl
  | _ => rfl

theorem foldl_perform_fst {launcher : Launch → CaptureScript} {now : Nat} {acts : List SessionAct}
    {x : SessionRun × SessionTrace} :
    (acts.foldl (SessionRun.perform launcher now) x).1 = acts.foldl (performed launcher now) x.1 := by
  induction acts generalizing x with
  | nil => rfl
  | cons a acts ih => rw [List.foldl_cons, ih, perform_fst, List.foldl_cons]

/-- A session that takes a place twice. -/
theorem withRun_withRun (ht : r'.target = r.target) : (s.withRun r).withRun r' = s.withRun r' := by
  simp only [Service.withRun, List.map_map]
  congr 3
  funext x
  by_cases h : x.target = r.target <;> simp [h, ht]

/-- A session does what it has to do, one act after another. -/
theorem acts_moves (launcher : Launch → CaptureScript) (now : Nat) (acts : List SessionAct)
    (hs : st.service = s.withRun r) (hr : r ∈ st.service.watch.runs) (ht : st.todo r.target = acts) :
    ∃ st', Moves st st' ∧ st'.service = s.withRun (acts.foldl (performed launcher now) r) ∧
      ∀ target, st.todo target = [] ∨ target = r.target → st'.todo target = [] := by
  induction acts generalizing st r with
  | nil =>
    refine ⟨st, .refl, hs, fun target h => ?_⟩
    rcases h with h | rfl
    · exact h
    · exact ht
  | cons a acts ih =>
    have hact : Acting (r, st.todo r.target) (performed launcher now r a, acts) := by
      rw [ht]
      exact .act launcher now r a acts
    have htarget : (performed launcher now r a).target = r.target := hact.target_eq
    let next : Stage := { st with
      service := st.service.withRun (performed launcher now r a), todo := Function.update st.todo r.target acts }
    have hservice : next.service = s.withRun (performed launcher now r a) := by
      rw [show next.service = st.service.withRun _ from rfl, hs, withRun_withRun htarget]
    have hmem : performed launcher now r a ∈ next.service.watch.runs :=
      List.mem_map.mpr ⟨r, hr, if_pos htarget.symm⟩
    have htodo : next.todo (performed launcher now r a).target = acts := by
      rw [htarget]
      exact Function.update_self ..
    obtain ⟨st', hm, hs', hquiet⟩ := ih hservice hmem htodo
    refine ⟨st', .head (.current hr hact) hm, hs', fun target h => hquiet target ?_⟩
    by_cases he : target = r.target
    · exact .inr (he.trans htarget.symm)
    · left
      change Function.update st.todo r.target acts target = []
      rw [Function.update_of_ne he]
      exact h.resolve_right he

theorem target_performed {launcher : Launch → CaptureScript} {now : Nat} {acts : List SessionAct} :
    (acts.foldl (performed launcher now) r).target = r.target := by
  induction acts generalizing r with
  | nil => rfl
  | cons a acts ih =>
    rw [List.foldl_cons, ih]
    exact SessionRun.target_perform

/-- What no session has to do with is one move. -/
theorem rest_moves (hq : Quiet st) (hr : s.watch.runs = st.service.watch.runs) :
    ∃ st', Moves st st' ∧ Quiet st' ∧ st'.service = s :=
  ⟨{ st with service := s }, .single (.rest hr), hq, rfl⟩

/-- A session that goes on takes a step and does what it has to do. -/
theorem go_moves {w : Watch} (hq : Quiet st) (hr : r ∈ st.service.watch.runs)
    (h : st.service.watch.runStep? r = some w) :
    ∃ st', Moves st st' ∧ Quiet st' ∧ st'.service = { st.service with watch := w } := by
  obtain ⟨⟨r', trace⟩, hstep, rfl⟩ := Option.map_eq_some_iff.mp h
  unfold SessionRun.step at hstep
  split at hstep
  · rename_i hb
    obtain ⟨⟨s, acts⟩, hs, he⟩ := Option.map_eq_some_iff.mp hstep
    have hacting : Acting (r, st.todo r.target) ({ r with session := s }, acts) := by
      rw [hq]
      exact .decide hb hs
    have ht : ({ r with session := s } : SessionRun).target = r.target := hacting.target_eq
    let decided : Stage := { st with
      service := st.service.withRun { r with session := s }, todo := Function.update st.todo r.target acts }
    have hmem : { r with session := s } ∈ decided.service.watch.runs := List.mem_map.mpr ⟨r, hr, if_pos ht.symm⟩
    have htodo : decided.todo ({ r with session := s } : SessionRun).target = acts := by
      rw [ht]
      exact Function.update_self ..
    obtain ⟨st', hm, hservice, hquiet⟩ :=
      acts_moves (st.service.watch.launcher st.service.watch.launches) st.service.watch.now acts rfl hmem htodo
    have hr' : acts.foldl (performed (st.service.watch.launcher st.service.watch.launches) st.service.watch.now)
        { r with session := s } = r' := by
      rw [← foldl_perform_fst (x := ({ r with session := s }, {}))]
      exact congrArg Prod.fst he
    have hruns : st'.service.watch.runs = st.service.watch.runs.map fun x => if x.target = r.target then r' else x := by
      rw [hservice, ← ht, ← hr', ← target_performed (r := { r with session := s })]
      rfl
    refine ⟨{ st' with service := _ }, .tail (.head (.current hr hacting) hm) (.rest hruns.symm), fun target => ?_, rfl⟩
    refine hquiet target ?_
    by_cases hn : target = r.target
    · exact .inr (hn.trans ht.symm)
    · left
      change Function.update st.todo r.target acts target = []
      rw [Function.update_of_ne hn]
      exact hq target
  · cases hstep

/-- A request to stop reaches the session of its target. -/
theorem modifySession_stop (hn : (s.watch.runs.map SessionRun.target).Nodup) (hr : r ∈ s.watch.runs) :
    { s with watch := s.watch.modifySession r.target Session.stop } =
      s.withRun { r with session := r.session.stop } := by
  simp only [Watch.modifySession, Service.withRun]
  congr 2
  refine List.map_congr_left fun x hx => ?_
  by_cases h : x.target = r.target
  · obtain rfl := List.inj_on_of_nodup_map hn hx hr h
    exact (if_pos h).trans (if_pos h).symm
  · exact (if_neg h).trans (if_neg h).symm

theorem ask_moves (hk : Kept st) (hq : Quiet st) (target : String) : ∃ st', Moves st st' ∧ Quiet st' ∧
    st'.service = { st.service with watch := st.service.watch.modifySession target Session.stop } := by
  cases hr : st.service.watch.run? target with
  | none =>
    have hruns : (st.service.watch.modifySession target Session.stop).runs = st.service.watch.runs := by
      simp only [Watch.modifySession]
      refine (List.map_congr_left fun x hx => ?_).trans (List.map_id _)
      exact if_neg (by simpa using List.find?_eq_none.mp hr x hx)
    exact rest_moves hq hruns
  | some r =>
    have hm : r ∈ st.service.watch.runs := List.mem_of_find?_eq_some hr
    obtain rfl := target_of_run? hr
    refine ⟨_, .single (.current hm (.ask r _)), fun target => ?_, (modifySession_stop hk.nodup hm).symm⟩
    change Function.update st.todo r.target (st.todo r.target) target = []
    rw [Function.update_eq_self]
    exact hq target

theorem change_moves (hq : Quiet st) (c : Change) :
    ∃ st', Moves st st' ∧ Quiet st' ∧ st'.service = (st.service.change c).1 := by
  have hr : (st.service.change c).1.watch.runs = st.service.watch.runs := by
    rcases st.service.change_cases c with he | ⟨_, _, _, he⟩
    · rw [he]
    · rw [he]
      rfl
  exact rest_moves hq hr

/-- Whatever happens to a service is made of moves. -/
theorem step_moves (hk : Kept st) (hq : Quiet st) (h : Service.Step st.service s) :
    ∃ st', Moves st st' ∧ Quiet st' ∧ st'.service = s := by
  cases h with
  | insert | remove | disable | reprioritize => exact change_moves hq _
  | reenable | around => exact rest_moves hq rfl
  | start target =>
    cases hany : (st.service.watch.run? target).any (!·.isFinished) with
    | true =>
      rw [startSession_of_active hany]
      exact ⟨st, .refl, hq, rfl⟩
    | false =>
      have hs := startSession_of_free hany
      refine ⟨_, .single (.start hs), fun t => ?_, by rw [hs]⟩
      change Function.update st.todo target [] t = []
      by_cases ht : t = target
      · rw [ht, Function.update_self]
      · rw [Function.update_of_ne ht, hq]
  | ask target => exact ask_moves hk hq target
  | @stir w h =>
    rcases h.runs_cases with hr | ⟨r, hr, hg⟩
    · exact rest_moves hq hr
    · exact go_moves hq hr hg

theorem Kept.moves (h : Kept st) (hm : Moves st st') : Kept st' := by
  induction hm with
  | refl => exact h
  | tail _ hm ih => exact ih.move hm

theorem steps_moves (hk : Kept st) (hq : Quiet st) (h : Service.Steps st.service s) :
    ∃ st', Moves st st' ∧ Quiet st' ∧ st'.service = s := by
  induction h with
  | refl => exact ⟨st, .refl, hq, rfl⟩
  | tail _ hs ih =>
    obtain ⟨st₁, hm, hq₁, rfl⟩ := ih
    obtain ⟨st₂, hm₂, hq₂, hs₂⟩ := step_moves (hk.moves hm) hq₁ hs
    exact ⟨st₂, hm.trans hm₂, hq₂, hs₂⟩

/-! Sessions of a target -/

theorem sessions_cases (hr : r ∈ st.sessions target) : r.target = target ∧
    ((∃ todo, (r, todo) ∈ st.past) ∨ r ∈ st.service.watch.runs) := by
  obtain ⟨hm, ht⟩ := List.mem_filter.mp hr
  refine ⟨by simpa using ht, ?_⟩
  rcases List.mem_append.mp hm with hm | hm
  · obtain ⟨⟨r, todo⟩, hx, rfl⟩ := List.mem_map.mp hm
    exact .inl ⟨todo, hx⟩
  · exact .inr hm

theorem Kept.final (h : Kept st) (hr : r ∈ st.sessions target) (hf : r.isFinished = true) :
    r.hold.isCapture = false := by
  rcases (sessions_cases hr).2 with ⟨todo, hx⟩ | hm
  · exact ((h.past _ hx).1.final hf).1
  · exact ((h.current r hm).final hf).1

/-- A target has one session besides those of the past. -/
theorem Kept.countP_runs_le (h : Kept st) (target : String) :
    st.service.watch.runs.countP (·.target = target) ≤ 1 := by
  have hc := List.nodup_iff_count_le_one.mp h.nodup target
  rwa [List.count, List.countP_map] at hc

theorem Kept.active (h : Kept st) (target : String) : (st.sessions target).countP (!·.isFinished) ≤ 1 := by
  have hpast : ((st.past.map (·.1)).filter (·.target = target)).countP (!·.isFinished) = 0 := by
    refine List.countP_eq_zero.mpr fun r hr => ?_
    obtain ⟨x, hx, rfl⟩ := List.mem_map.mp (List.mem_filter.mp hr).1
    simp [(h.past x hx).2]
  have hruns : (st.service.watch.runs.filter (·.target = target)).countP (!·.isFinished) ≤ 1 := by
    refine Nat.le_trans List.countP_le_length ?_
    rw [← List.countP_eq_length_filter]
    exact h.countP_runs_le target
  rw [sessions, List.filter_append, List.countP_append, hpast, Nat.zero_add]
  exact hruns

theorem Kept.exclusion (h : Kept st) : Exclusive st := by
  constructor
  case active => exact h.active
  case held =>
    intro target
    refine Nat.le_trans (List.countP_mono_left fun r hr hc => ?_) (h.active target)
    cases hf : r.isFinished with
    | false => rfl
    | true => exact absurd hc (by simp [h.final hr hf])
  case final => exact fun target r => h.final
  case launch =>
    intro r hr proxy attempt rest ht x hx
    have hlaunch : Poised (r, .launch proxy attempt :: rest) := ht ▸ h.current r hr
    obtain ⟨hxt, ⟨todo, hp⟩ | hm⟩ := sessions_cases hx
    · exact h.final hx (h.past _ hp).2
    · obtain rfl := List.inj_on_of_nodup_map h.nodup hm hr hxt
      exact hlaunch.launch.1
  case retired => exact fun x hx => ⟨(h.past x hx).2, ((h.past x hx).1.final (h.past x hx).2).2.1⟩
  case refused => exact fun _ => startSession_refused_iff
  case unchanged => exact fun _ _ => startSession_error
  case steps => exact fun hq s hs => steps_moves h hq hs
  case calls => exact fun hq c hc => steps_moves h hq (st.service.after_steps hc)

/-- However calls and the acts of sessions are interleaved, the sessions of a target exclude each other. -/
theorem Reachable.exclusive (h : Reachable st) : Exclusive st := h.kept.exclusion

/-- A session that was started and is in the midst of its first step. -/
theorem Reachable.exclusive_started : ∃ st, Reachable st ∧ (∃ r ∈ st.sessions "t", r.isFinished = false) ∧
    Exclusive st := by
  let config : Config := { health := { probeUrl := "http://[::1]/" } }
  have hv : config.validate = .ok () := by decide +kernel
  obtain ⟨s, hb⟩ := Service.exists_build config { clock := default } hv fun path hm => by cases hm
  have hfree : (s.watch.run? "t").any (!·.isFinished) = false := by simp [Watch.run?, runs_of_build hb]
  have hstarted := (Reachable.built hb).move (.start (startSession_of_free hfree))
  let r : SessionRun := { session := Session.ofTarget s.config.sessionOptions "t" s.watch.clock }
  have hr : r ∈ s.watch.runs.filter (·.target != "t") ++ [r] := List.mem_append_right _ (List.mem_singleton_self r)
  obtain ⟨s', acts, hs⟩ : ∃ s' acts, r.session.step (r.view 0 default []) = some (s', acts) := ⟨_, _, rfl⟩
  have hacting : Acting (r, Function.update (fun _ => []) "t" [] r.target) ({ r with session := s' }, acts) := by
    rw [show r.target = "t" from rfl, Function.update_self]
    exact .decide rfl hs
  have ht : ({ r with session := s' } : SessionRun).target = "t" := hacting.target_eq
  have h := hstarted.move (.current hr hacting)
  refine ⟨_, h, ⟨{ r with session := s' }, List.mem_filter.mpr ⟨?_, by simp [ht]⟩, rfl⟩, h.exclusive⟩
  exact List.mem_append_right _ (List.mem_map.mpr ⟨r, hr, if_pos ht.symm⟩)

end
end Stage
end ProxyWatch
