import ProxyWatch.Proofs.Selection.Ranking
import ProxyWatch.Proofs.Service.Exclusive
import ProxyWatch.Proofs.Service.Moves
import ProxyWatch.Proofs.Watch.Probing

/-! What a service refuses. A request is refused for what is known when it is made, and nothing has happened then. -/
namespace ProxyWatch

open Watch (Fit Foreign Lone Probing)

/-- A request to a service that can be refused. -/
inductive Request
  | add (e : Endpoint)
  | get (id : String)
  | remove (id : String)
  | enable (id : String)
  | disable (id : String)
  | reprioritize (id : String) (priority : Nat)
  | check (id : String)
  | startSession (target : String)
  | stopSession (target : String)
  | select

/-- The endpoint that a request looks up. -/
def Request.endpoint? : Request → Option String
  | get id | remove id | enable id | disable id | reprioritize id _ | check id => some id
  | _ => none

namespace Service

/-- What a reply leaves behind, and the error if it is one. -/
def Reply.refusal {α : Type} (r : Reply α) : Service × Option ServiceError :=
  (r.1, match r.2 with | .ok _ => none | .error e => some e)

/-- The service after a request, and the error if the request was refused. -/
def serve (s : Service) : Request → Service × Option ServiceError
  | .add e => Reply.refusal (s.add e)
  | .get id => Reply.refusal (s, s.get id)
  | .remove id => Reply.refusal (s.remove id)
  | .enable id => Reply.refusal (s.enable id)
  | .disable id => Reply.refusal (s.disable id)
  | .reprioritize id priority => Reply.refusal (s.reprioritize id priority)
  | .check id => Reply.refusal (s.check id)
  | .startSession target => Reply.refusal (s.startSession target)
  | .stopSession target => Reply.refusal (s.stopSession target)
  | .select => Reply.refusal (s, s.select)

/-- Why a service refuses a request. -/
inductive Refuses (s : Service) : Request → ServiceError → Prop
  | blankId {e : Endpoint} (hid : Blank.isAllBlank e.id = true) : Refuses s (.add e) .emptyEndpointId
  | badUrl {e : Endpoint} {fault : ConfigError} (hid : Blank.isAllBlank e.id = false)
      (hurl : checkProxyUrl e.id e.url = .error fault) : Refuses s (.add e) (.config fault)
  | taken {e : Endpoint} (hid : Blank.isAllBlank e.id = false) (hurl : checkProxyUrl e.id e.url = .ok ())
      (hs : (s.watch.store.registry.find? e.id).isSome = true) : Refuses s (.add e) (.endpointExists e.id)
  | absent {q : Request} {id : String} (hq : q.endpoint? = some id)
      (ha : s.watch.store.registry.find? id = none) : Refuses s q (.registry (.notFound id))
  | underWay {target : String} {r : SessionRun} (hr : s.watch.run? target = some r) (hf : r.isFinished = false) :
      Refuses s (.startSession target) (.sessionActive target)
  | unknown {target : String} (hr : s.watch.run? target = none) :
      Refuses s (.stopSession target) (.sessionNotFound target)
  | noRoute (hf : s.config.failover.fallback = false)
      (hc : ∀ e ∈ s.watch.store.registry.entries, Selection.isCandidate e = false) :
      Refuses s .select (.selection .noProxyAvailable)

variable {config : Config} {s : Service} {q : Request} {id target : String} {e : Endpoint} {err err' : ServiceError}

/-- There is one reason at most. -/
theorem Refuses.unique (h : s.Refuses q err) (h' : s.Refuses q err') : err = err' := by
  cases h <;> cases h' <;> simp_all [Request.endpoint?]

/-- A request is granted, or it is refused and nothing has happened. -/
inductive Answer (s : Service) (q : Request) : Prop
  | granted (hs : (s.serve q).2 = none) (hn : ∀ err, ¬ s.Refuses q err)
  | refused {err : ServiceError} (hs : s.serve q = (s, some err)) (hr : s.Refuses q err)

/-! Probes -/

theorem probeMs_le_horizon (hv : config.validate = .ok ()) : config.probeMs ≤ Watch.horizon := by
  obtain ⟨-, hlt, hday⟩ := Config.timeout_lt_interval hv
  have hday : config.health.timeoutSeconds < 86400 := Nat.lt_of_lt_of_le hlt hday
  have hlt : config.probeMs < 2 ^ 64 := by
    rw [Config.probeMs]
    omega
  exact hlt.le

/-- The probe that a check sends. -/
theorem exists_probing (h : s.Regular config) (hf : s.watch.store.registry.find? id = some e) :
    ∃ w key, s.watch.startRound? [e] false = some (w, key) ∧ Probing key id (w.now + config.probeMs) w := by
  obtain ⟨d, hd, htimer⟩ := Watch.outerTimeout_eq h.valid
  obtain ⟨⟨w, key⟩, hs⟩ : ∃ x, s.watch.startRound? [e] false = some x := Watch.exists_startRound (h.checking ▸ hd)
  refine ⟨w, key, hs, ?_⟩
  have hfit := (h.send hs).fit
  obtain ⟨d', _, _, flights, hd', rfl, hids, hlanding, rfl⟩ := Watch.startRound_shape hs
  obtain rfl : d' = d := by
    rcases hd' with hnil | hd'
    · cases hnil
    · exact Option.some.inj (hd'.symm.trans (h.checking ▸ hd))
  obtain ⟨f, rfl, hid⟩ := List.map_eq_singleton_iff.mp hids
  have hland : f.landing ≤ s.watch.now + config.probeMs :=
    (htimer s.watch.now) ▸ hlanding f (List.mem_singleton_self f)
  refine ⟨hfit, ⟨Nat.lt_succ_self _, fun he => Nat.lt_irrefl _ (h.cycle _ he)⟩, by rw [hf]; rfl, _,
    List.mem_append_right _ (List.mem_singleton_self _), .flying ?_ hland⟩
  exact hid.trans (Registry.id_of_find? hf)

/-- A caller that waits long enough finds the probe landed. -/
theorem exists_landed {w : Watch} {key ms : Nat} (h : Probing key id (w.now + config.probeMs) w)
    (hms : config.probeMs ≤ ms) : ∃ c a, c.applied = some a ∧
      (w.await (·.isOver key) ms).1.round? key = some { flights := [], checks := [c] } := by
  have hcoming := Watch.probing_coming key id (w.now + config.probeMs)
  have hpos : 0 < ms := Nat.lt_of_lt_of_le (Nat.succ_pos _) hms
  obtain ⟨hend, hover⟩ := (hcoming.mono (Nat.add_le_add_left hms _)).await h hpos
  obtain ⟨c, a, ha, hr⟩ := hend.isOver_iff.mp hover
  exact ⟨c, a, ha, hend.fit.distinct.round?_of_mem hr⟩

theorem finishRound_snd (w : Watch) (key : Nat) : (w.finishRound key).2 =
    ((w.await (·.isOver key) Watch.horizon).1.round? key).getD { flights := [] } := rfl

theorem exists_finishRound {w : Watch} {key : Nat} (hv : config.validate = .ok ())
    (h : Probing key id (w.now + config.probeMs) w) :
    ∃ c a, c.applied = some a ∧ (w.finishRound key).2 = { flights := [], checks := [c] } := by
  obtain ⟨c, a, ha, hround⟩ := exists_landed h (probeMs_le_horizon hv)
  refine ⟨c, a, ha, ?_⟩
  rw [finishRound_snd, hround, Option.getD_some]

/-- What a check comes to whose probe has an effect. -/
theorem check_eq {w : Watch} {key : Nat} {c : Check} {a : Applied} (hget : s.get id = .ok e)
    (hs : s.watch.startRound? [e] false = some (w, key)) (hc : (w.finishRound key).2.checks = [c])
    (ha : c.applied = some a) : s.check id = ({ s with watch := (w.finishRound key).1 }, .ok a) := by
  -- How a round is started and awaited stays folded: the bounds in it are too large to be computed with.
  obtain ⟨start, finish, hstart, hfinish, hs, hc⟩ : ∃ start finish, Watch.startRound? = start ∧
      Watch.finishRound = finish ∧ start s.watch [e] false = some (w, key) ∧ (finish w key).2.checks = [c] :=
    ⟨_, _, rfl, rfl, hs, hc⟩
  rw [check, hstart, hfinish, hget]
  dsimp only
  rw [hs]
  dsimp only
  rw [hc, List.head?_cons, Option.bind_some, ha]

theorem get_of_find? (hf : s.watch.store.registry.find? id = some e) : s.get id = .ok e := by
  rw [get, Registry.get_of_find? hf]
  rfl

/-- A check of a stored endpoint is not refused. -/
theorem exists_check (h : s.Regular config) (hf : s.watch.store.registry.find? id = some e) :
    ∃ a, (s.check id).2 = .ok a := by
  obtain ⟨w, key, hs, hprobing⟩ := exists_probing h hf
  obtain ⟨c, a, ha, hround⟩ := exists_finishRound h.valid hprobing
  exact ⟨a, by rw [check_eq (get_of_find? hf) hs (congrArg Round.checks hround) ha]⟩

theorem check_of_absent (ha : s.watch.store.registry.find? id = none) :
    s.check id = (s, .error (.registry (.notFound id))) := by
  have hget : s.get id = .error (.registry (.notFound id)) := by rw [get, Registry.get_of_absent ha]; rfl
  simp only [check, hget]

/-! Requests -/

/-- A change of one record is refused exactly if there is none, and then nothing has happened. -/
theorem change_of_error {c : Change} {fault : RegistryError} (h : s.watch.store.registry.change c = .error fault) :
    s.change c = (s, .error (.registry fault)) := by
  rw [change, Store.change_of_error h]

theorem change_of_ok {c : Change} {r : Registry} {x : Endpoint} (h : s.watch.store.registry.change c = .ok (r, x)) :
    s.change c = (s.commit r, .ok x) := by
  rw [change, Store.change_of_ok h]
  rfl

theorem refusal_of_ok {α : Type} {r : Reply α} {a : α} (h : r.2 = .ok a) : (Reply.refusal r).2 = none := by
  rw [Reply.refusal, h]

/-- A request that only looks up an endpoint is refused exactly if the endpoint isn't stored. -/
theorem answer_of_lookup (hq : q.endpoint? = some id)
    (habsent : s.watch.store.registry.find? id = none → s.serve q = (s, some (.registry (.notFound id))))
    (hfound : ∀ e, s.watch.store.registry.find? id = some e → (s.serve q).2 = none) : Answer s q := by
  cases hf : s.watch.store.registry.find? id with
  | none => exact .refused (habsent hf) (.absent hq hf)
  | some e =>
    refine .granted (hfound e hf) fun err hr => ?_
    cases hr with
    | absent hq' ha =>
      cases hq.symm.trans hq'
      cases hf.symm.trans ha
    | blankId | badUrl | taken | underWay | unknown | noRoute => cases hq

/-- A change of the record of an endpoint. -/
theorem answer_of_change {c : Change} (hq : q.endpoint? = some id) (hs : s.serve q = Reply.refusal (s.change c))
    (habsent : s.watch.store.registry.find? id = none →
      s.watch.store.registry.change c = .error (.notFound id))
    (hfound : ∀ e, s.watch.store.registry.find? id = some e → ∃ x, s.watch.store.registry.change c = .ok x) :
    Answer s q := by
  refine answer_of_lookup hq (fun ha => ?_) fun e hf => ?_
  · rw [hs, change_of_error (habsent ha)]
    rfl
  · obtain ⟨⟨r, x⟩, hx⟩ := hfound e hf
    rw [hs, change_of_ok hx]
    rfl

theorem answer_of_check (h : s.Regular config) (id : String) : Answer s (.check id) := by
  refine answer_of_lookup rfl (fun ha => ?_) fun e hf => ?_
  · change Reply.refusal (s.check id) = _
    rw [check_of_absent ha]
    rfl
  · obtain ⟨a, ha⟩ := exists_check h hf
    exact refusal_of_ok ha

/-- An endpoint that is stored is given back to use, and then probed. -/
theorem answer_of_enable (h : s.Regular config) (id : String) : Answer s (.enable id) := by
  refine answer_of_lookup rfl (fun ha => ?_) fun e hf => ?_
  · change Reply.refusal (s.enable id) = _
    simp only [enable, Failover.reenable_of_absent ha]
    rfl
  · obtain ⟨events, hr⟩ := Failover.reenable_of_find? hf
    let registry := s.watch.store.registry.put (e.update e.reenableUpdate)
    let given : Service := { s with watch := (s.commit registry).watch.note events }
    have hmove : Meanwhile s given := .reenable hr
    have hstored : given.watch.store.registry.find? id = some (e.update e.reenableUpdate) := by
      have hid : (e.update e.reenableUpdate).id = id := (Registry.id_of_find? hf :)
      exact hid ▸ Registry.find?_put_self
    obtain ⟨a, ha⟩ := exists_check (h.meanwhile hmove) hstored
    have hprobed : (given.probed id).2 = .ok a.endpoint := congrArg (Except.map _) ha
    have henable : s.enable id = given.probed id := by
      simp only [enable, hr]
      rfl
    change (Reply.refusal (s.enable id)).2 = none
    rw [henable]
    exact refusal_of_ok hprobed

theorem change_upsert (s : Service) (e : Endpoint) : s.change (.upsert e) =
    (s.commit (s.watch.store.registry.upsert e).1, .ok (s.watch.store.registry.upsert e).2) := change_of_ok rfl

/-- An endpoint that passes the checks is added, and then probed if it is enabled. -/
theorem add_eq (hid : Blank.isAllBlank e.id = false) (hurl : checkProxyUrl e.id e.url = .ok ())
    (ha : s.watch.store.registry.find? e.id = none) : s.add e =
    if e.enabled then (s.change (.upsert e.resetHealth)).1.probed e.id else s.change (.upsert e.resetHealth) := by
  simp only [add, hid, hurl, ha, Bool.false_eq_true, if_false, Option.isSome_none]

theorem find?_change_upsert (s : Service) (e : Endpoint) (ha : s.watch.store.registry.find? e.id = none) :
    (s.change (.upsert e.resetHealth)).1.watch.store.registry.find? e.id = some e.resetHealth := by
  have hstored : (s.watch.store.registry.upsert e.resetHealth).2 = e.resetHealth := Registry.upsert_of_absent ha
  rw [change_upsert]
  have hfound := (Registry.find?_upsert s.watch.store.registry e.resetHealth e.id).trans (if_pos rfl)
  exact hfound.trans (congrArg some hstored)

theorem add_of_fresh (h : s.Regular config) (hid : Blank.isAllBlank e.id = false)
    (hurl : checkProxyUrl e.id e.url = .ok ()) (ha : s.watch.store.registry.find? e.id = none) :
    ∃ x, (s.add e).2 = .ok x := by
  rw [add_eq hid hurl ha]
  split
  · have hmove : Meanwhile s (s.change (.upsert e.resetHealth)).1 := .change _
    obtain ⟨a, ha⟩ := exists_check (h.meanwhile hmove) (find?_change_upsert s e ha)
    exact ⟨a.endpoint, congrArg (Except.map _) ha⟩
  · exact ⟨_, by rw [change_upsert]⟩

theorem answer_of_add (h : s.Regular config) (e : Endpoint) : Answer s (.add e) := by
  cases hid : Blank.isAllBlank e.id with
  | true => exact .refused (by simp only [serve, add, hid, if_true]; rfl) (.blankId hid)
  | false =>
    cases hurl : checkProxyUrl e.id e.url with
    | error fault =>
      refine .refused ?_ (.badUrl hid hurl)
      simp only [serve, add, hid, hurl, Bool.false_eq_true, if_false]
      rfl
    | ok _ =>
      cases hs : (s.watch.store.registry.find? e.id).isSome with
      | true =>
        refine .refused ?_ (.taken hid hurl hs)
        simp only [serve, add, hid, hurl, hs, Bool.false_eq_true, if_false, if_true]
        rfl
      | false =>
        obtain ⟨x, hx⟩ := add_of_fresh h hid hurl (by simpa using hs)
        refine .granted (refusal_of_ok hx) fun err hr => ?_
        cases hr with
        | blankId hid' => cases hid.symm.trans hid'
        | badUrl _ hurl' => cases hurl.symm.trans hurl'
        | taken _ _ hs' => cases hs.symm.trans hs'
        | absent hq => cases hq

theorem answer_of_startSession (s : Service) (target : String) : Answer s (.startSession target) := by
  have hserve : s.serve (.startSession target) = Reply.refusal (s.startSession target) := rfl
  cases hs : (s.startSession target).2 with
  | error fault =>
    obtain ⟨rfl, hself⟩ := Stage.startSession_error hs
    obtain ⟨r, hr, hf⟩ := Stage.startSession_refused_iff.mp hs
    refine .refused ?_ (.underWay hr hf)
    rw [hserve, Reply.refusal, hs, hself]
  | ok record =>
    refine .granted (refusal_of_ok hs) fun err hr => ?_
    cases hr with
    | underWay hr hf => cases hs.symm.trans (Stage.startSession_refused_iff.mpr ⟨_, hr, hf⟩)
    | absent hq => cases hq

theorem answer_of_stopSession (s : Service) (target : String) : Answer s (.stopSession target) := by
  cases hr : s.watch.run? target with
  | none =>
    refine .refused ?_ (.unknown hr)
    simp only [serve, stopSession, hr]
    rfl
  | some r =>
    refine .granted ?_ fun err hr' => ?_
    · simp only [serve, stopSession, hr]
      rfl
    · cases hr' with
      | unknown hnone => cases hr.symm.trans hnone
      | absent hq => cases hq

theorem answer_of_select (s : Service) : Answer s .select := by
  have hserve : s.serve .select = Reply.refusal (s, s.select) := rfl
  cases hs : Selection.select s.watch.store.registry.entries s.config.failover.fallback with
  | ok choice =>
    refine .granted ?_ fun err hr => ?_
    · rw [hserve, select, hs]
      rfl
    · cases hr with
      | noRoute hf hc =>
        rw [Selection.select_of_none hc, hf] at hs
        cases hs
      | absent hq => cases hq
  | error fault =>
    have hc : ∀ e ∈ s.watch.store.registry.entries, Selection.isCandidate e = false :=
      Selection.none_of_select fun e he => by cases hs.symm.trans he
    rw [Selection.select_of_none hc] at hs
    cases hf : s.config.failover.fallback with
    | true =>
      rw [hf] at hs
      cases hs
    | false =>
      refine .refused ?_ (.noRoute hf hc)
      rw [hserve, select, Selection.select_of_none hc, hf]
      rfl

theorem Regular.answer (h : s.Regular config) (q : Request) : Answer s q := by
  cases q with
  | add e => exact answer_of_add h e
  | get id =>
    refine answer_of_lookup rfl (fun ha => ?_) fun e hf => ?_
    · simp only [serve, Service.get, Registry.get_of_absent ha]
      rfl
    · simp only [serve, Service.get, Registry.get_of_find? hf]
      rfl
  | remove id =>
    refine answer_of_change (c := .delete id) rfl rfl Registry.delete_of_absent fun e hf => ?_
    obtain ⟨r, hr, -⟩ := Registry.delete_of_find? hf
    exact ⟨_, hr⟩
  | disable id =>
    exact answer_of_change (c := .setEnabled id false) rfl rfl Registry.modify_of_absent
      fun e hf => ⟨_, Registry.modify_of_find? hf⟩
  | reprioritize id priority =>
    exact answer_of_change (c := .setPriority id priority) rfl rfl Registry.modify_of_absent
      fun e hf => ⟨_, Registry.modify_of_find? hf⟩
  | enable id => exact answer_of_enable h id
  | check id => exact answer_of_check h id
  | startSession target => exact answer_of_startSession s target
  | stopSession target => exact answer_of_stopSession s target
  | select => exact answer_of_select s

/-- In every state that a service comes into, a request is refused exactly for what is known when it is made. Nothing
has happened then: the registry and its file, the sessions, the events, the probes and the launches are as they were,
and so is the clock. -/
theorem refused_unchanged (h : Arises config s) (q : Request) :
    (∀ err, (s.serve q).2 = some err ↔ s.Refuses q err) ∧ ∀ err, (s.serve q).2 = some err → (s.serve q).1 = s := by
  cases h.regular.answer q with
  | granted hs hn => exact ⟨fun err => by simp [hs, hn err], fun err he => by simp [hs] at he⟩
  | @refused err hs hr =>
    refine ⟨fun err' => ⟨fun he => ?_, fun hr' => ?_⟩, fun _ _ => by rw [hs]⟩
    · rw [hs] at he
      exact Option.some.inj he ▸ hr
    · rw [hs, hr.unique hr']

/-- A target whose session has just been started gets no second one. -/
theorem refused_unchanged_underWay : ∃ config s, Arises config s ∧ (∃ r ∈ s.watch.runs, r.isFinished = false) ∧
    (s.serve (.startSession "t")).2 = some (.sessionActive "t") ∧ (s.serve (.startSession "t")).1 = s := by
  let config : Config := { health := { probeUrl := "http://[::1]/" } }
  have hv : config.validate = .ok () := by decide +kernel
  obtain ⟨s₀, hb⟩ := exists_build config { clock := default } hv nofun
  let s := (s₀.startSession "t").1
  have harises : Arises config s := .move (.built hb) (.startSession "t")
  have hfree : (s₀.watch.run? "t").any (!·.isFinished) = false := by simp [Watch.run?, Stage.runs_of_build hb]
  let r : SessionRun := { session := Session.ofTarget s₀.config.sessionOptions "t" s₀.watch.clock }
  have hruns : s.watch.runs = [r] := by
    simp only [s, Stage.startSession_of_free hfree, Stage.runs_of_build hb]
    rfl
  have hr : s.watch.run? "t" = some r := by
    rw [Watch.run?, hruns]
    rfl
  obtain ⟨hrefused, hunchanged⟩ := refused_unchanged harises (.startSession "t")
  have hsecond := (hrefused (.sessionActive "t")).mpr (.underWay hr rfl)
  exact ⟨config, s, harises, ⟨r, hruns ▸ List.mem_singleton_self r, rfl⟩, hsecond, hunchanged _ hsecond⟩

end Service
end ProxyWatch
