import Mathlib.Data.List.MinMax
import Mathlib.Order.Nat
import ProxyWatch.Proofs.Failover.Apart
import ProxyWatch.Proofs.Watch.Flights
import ProxyWatch.Service

/-! A round over the enabled endpoints when nothing else is at work. Its probes land in the order in which the replies
come, and what it comes to is what the outcomes come to in turn. -/
namespace ProxyWatch

namespace Reply

/-- How long a probe with this reply takes, at most as long as the bound. -/
def lasting (bound : Nat) (r : Reply) : Nat :=
  match r.delay with
  | some d => min d bound
  | none => bound

/-- What a probe with this reply comes to: its own result if that comes within the bound. -/
def within (bound : Nat) (timeout : Duration) (r : Reply) : ProbeResult :=
  match r.delay with
  | some d => if d ≤ bound then r.result else .error (.timeout timeout)
  | none => .error (.timeout timeout)

end Reply

namespace Watch

/-- The endpoints that a round is to probe. -/
def probed (w : Watch) : List Endpoint := w.store.registry.list true

def replyTo (w : Watch) (e : Endpoint) : Reply := (w.replies.next e.url).1

/-- The probe of an endpoint. -/
def probeOf (w : Watch) (e : Endpoint) : ProbeCall where
  proxy := e.url
  target := w.checking.probeUrl
  timeout := w.checking.timeout

/-- The outcome of a probe that takes no longer than a bound. -/
def verdict (w : Watch) (bound : Nat) (e : Endpoint) : ProbeOutcome :=
  .ofResult w.clock ((w.replyTo e).within bound w.checking.timeout)

/-- Nothing is at work, each endpoint to be probed has a url of its own, and the bound for a probe fits the clock's
count of milliseconds. -/
structure Calm (w : Watch) (ms : Nat) : Prop where
  rounds : w.rounds = []
  loop : w.loop = none
  runs : w.runs = []
  urls : (w.probed.map (·.url)).Nodup
  timeout : w.checking.timeout = .ofMillis ms
  fits : ms + 500 ≤ maxU64

/-- A round is what probing each endpoint and applying the outcomes in turn would be. -/
structure RoundInTurn (w : Watch) (bound : Nat) (w' : Watch) (round : Round) : Prop where
  /-- Each endpoint in use is probed once, and no other one. -/
  probes : w'.journal.probes = w.journal.probes ++ w.probed.map w.probeOf
  /-- There is a check for each of them, by id. -/
  endpoints : round.checks.map (·.endpoint) = w.probed.map (·.id)
  ascending : (round.checks.map (·.endpoint)).Pairwise (· < ·)
  outcomes : round.checks.map (·.outcome) = w.probed.map (w.verdict bound)
  checks : round.checks = (Failover.inTurn w.limit (w.verdict bound) w.store.registry w.probed).2
  registry : w'.store.registry = (Failover.inTurn w.limit (w.verdict bound) w.store.registry w.probed).1
  disabled : round.autoDisabled =
    ((Failover.inTurn w.limit (w.verdict bound) w.store.registry w.probed).2.filter fun c =>
      c.applied.any (·.autoDisabled)).map (·.endpoint)
  /-- It is over when the last probe is. -/
  now : w'.now = w.now + (w.probed.map fun e => (w.replyTo e).lasting bound).foldr max 0

end Watch

/-! What is sent -/

namespace Replies

variable {rs : Replies} {p q : String} {script : ReplyScript}

theorem scriptOf_withScript_of_ne (h : p ≠ q) : (rs.withScript p script).scriptOf q = rs.scriptOf q := by
  have hq : (q == p) = false := beq_eq_false_iff_ne.mpr h.symm
  have hlookup : (rs.scripts.filter (·.1 != p)).lookup q = rs.scripts.lookup q := by
    induction rs.scripts with
    | nil => rfl
    | cons x xs ih =>
      obtain ⟨r, script⟩ := x
      by_cases hr : r = p <;> simp [hr, List.lookup_cons, ih, hq]
  simp [scriptOf, withScript, List.lookup_cons, hq, hlookup]

theorem scriptOf_next_of_ne (h : p ≠ q) : (rs.next p).2.scriptOf q = rs.scriptOf q := by
  unfold next
  cases hs : (rs.scriptOf p).queue with
  | nil => simp [hs]
  | cons => simp only [hs]; exact scriptOf_withScript_of_ne h

/-- A reply of one proxy leaves those of another as they are. -/
theorem next_of_ne (h : p ≠ q) : ((rs.next p).2.next q).1 = (rs.next q).1 := by
  have hs : (rs.next p).2.scriptOf q = rs.scriptOf q := scriptOf_next_of_ne h
  generalize (rs.next p).2 = rs' at hs
  simp only [next, hs]
  cases (rs.scriptOf q).queue <;> rfl

end Replies

namespace Watch

variable {w u u' : Watch} {ms bound key : Nat} {es left landed : List Endpoint} {e : Endpoint}

/-- The probe of an endpoint on its way. -/
def flightOf (w : Watch) (bound : Nat) (e : Endpoint) : Flight where
  endpoint := e.id
  landing := w.now + (w.replyTo e).lasting bound
  result := (w.replyTo e).within bound w.checking.timeout

theorem ofReply_eq {id : String} {now n : Nat} {bound timeout : Duration} {reply : Reply}
    (hb : Clock.timer now bound = now + n) : Flight.ofReply id now bound timeout reply =
      { endpoint := id, landing := now + reply.lasting n, result := reply.within n timeout } := by
  unfold Flight.ofReply Reply.lasting Reply.within
  cases reply.delay with
  | none => simp [hb]
  | some d =>
    by_cases hd : d ≤ n
    · simp [hb, hd]
    · simp [hb, hd, Nat.min_eq_right (Nat.le_of_not_le hd)]

/-- Each endpoint with a url of its own gets the reply that it would get alone. -/
theorem foldl_send_eq {bound : Duration} {n : Nat} (hb : Clock.timer w.now bound = w.now + n)
    (hu : (es.map (·.url)).Nodup) (fs : List Flight) : ∃ replies, es.foldl (send bound) (w, fs) =
      ({ w with replies, journal := { w.journal with probes := w.journal.probes ++ es.map w.probeOf } },
        fs ++ es.map (w.flightOf n)) := by
  induction es generalizing w fs with
  | nil => exact ⟨w.replies, by simp⟩
  | cons e es ih =>
    obtain ⟨hne, hu⟩ := List.nodup_cons.mp hu
    let w₁ : Watch :=
      { w with
        replies := (w.replies.next e.url).2
        journal := { w.journal with probes := w.journal.probes ++ [w.probeOf e] } }
    have hsend : send bound (w, fs) e = (w₁, fs ++ [w.flightOf n e]) := by
      simp only [send, ofReply_eq hb]
      rfl
    have hflights : es.map (w₁.flightOf n) = es.map (w.flightOf n) := by
      refine List.map_congr_left fun x hx => ?_
      have hr : w₁.replyTo x = w.replyTo x :=
        Replies.next_of_ne fun hurl => hne (List.mem_map.mpr ⟨x, hx, hurl.symm⟩)
      simp only [flightOf, hr]
      rfl
    obtain ⟨replies, hrest⟩ := ih (w := w₁) hb hu (fs ++ [w.flightOf n e])
    refine ⟨replies, ?_⟩
    rw [List.foldl_cons, hsend, hrest, hflights]
    simp [w₁, probeOf]

theorem Calm.exists_bound (h : Calm w ms) :
    ∃ bound, w.checking.outerTimeout? = some bound ∧ Clock.timer w.now bound = w.now + (ms + 500) := by
  have hfits : ms + 500 ≤ 2 ^ 64 - 1 := h.fits
  have hsum : ms * 1000000 + 500 * 1000000 ≤ Duration.longest := by
    change _ ≤ 2 ^ 64 * 1000000000 - 1
    omega
  refine ⟨⟨ms * 1000000 + 500 * 1000000⟩, ?_, ?_⟩
  · rw [CheckOptions.outerTimeout?, h.timeout]
    exact if_pos hsum
  · have hreach : (ms * 1000000 + 500 * 1000000) / 1000000000 < 2 ^ 63 - 1 := by omega
    have hmillis : (ms * 1000000 + 500 * 1000000 + 999999) / 1000000 = ms + 500 := by omega
    rw [Clock.timer, Clock.endOr, Duration.millisUp, hmillis]
    exact if_pos hreach

/-- A round has been sent to the endpoints in use. -/
def cycleSent (w : Watch) (bound : Nat) (replies : Replies) : Watch :=
  { w with
    replies, journal := { w.journal with probes := w.journal.probes ++ w.probed.map w.probeOf }
    rounds := [(w.nextKey, { flights := w.probed.map (w.flightOf bound) })], nextKey := w.nextKey + 1 }

theorem Calm.startCycle (h : Calm w ms) :
    ∃ replies, w.startCycle? = some (w.cycleSent (ms + 500) replies, w.nextKey) := by
  obtain ⟨bound, hbound, htimer⟩ := h.exists_bound
  obtain ⟨replies, hsend⟩ := foldl_send_eq htimer h.urls []
  unfold startCycle? startRound?
  rw [← probed]
  by_cases hp : w.probed = []
  · exact ⟨w.replies, by simp [cycleSent, hp, h.rounds]⟩
  · rw [if_neg (by simpa using hp), hbound]
    simp only [Option.bind_eq_bind, Option.bind_some, hsend]
    exact ⟨replies, by simp [cycleSent, h.rounds]⟩

/-! What is on its way -/

/-- A round of probes of which some are on their way and others have landed. -/
structure UnderWay (w : Watch) (bound key : Nat) (left landed : List Endpoint) (u : Watch) : Prop where
  rounds : ∃ checks, u.rounds = [(key, { flights := left.map (w.flightOf bound), checks })] ∧
    checks.Perm (landed.map (Endpoint.check w.limit (w.verdict bound))) ∧
    checks.Pairwise fun a b => a.endpoint ≤ b.endpoint
  loop : u.loop = none
  runs : u.runs = []
  clock : u.clock = w.clock
  limit : u.limit = w.limit
  probes : u.journal.probes = w.journal.probes ++ w.probed.map w.probeOf
  perm : (landed ++ left).Perm w.probed
  treated : Treated w.limit (w.verdict bound) w.store.registry landed u.store.registry
  past : ∀ e ∈ landed, (w.flightOf bound e).landing ≤ u.now

theorem find?_of_mem_probed (he : e ∈ w.probed) : w.store.registry.find? e.id = some e :=
  Registry.find?_of_mem (List.mem_filter.mp he).1

theorem ascending_probed (w : Watch) : w.probed.Pairwise fun a b => a.id < b.id :=
  w.store.registry.ascending.filter _

theorem nodup_probed (w : Watch) : (w.probed.map (·.id)).Nodup :=
  List.pairwise_map.mpr ((ascending_probed w).imp String.ne_of_lt)

theorem UnderWay.mem_of_left (h : UnderWay w bound key left landed u) (he : e ∈ left) : e ∈ w.probed :=
  h.perm.mem_iff.mp (List.mem_append_right _ he)

/-- The endpoints whose probes are on their way are not those whose probes have landed. -/
theorem UnderWay.apart (h : UnderWay w bound key left landed u) (he : e ∈ left) : ∀ x ∈ landed, x.id ≠ e.id := by
  have hn : ((landed ++ left).map (·.id)).Nodup := (h.perm.map _).nodup_iff.mpr (nodup_probed w)
  rw [List.map_append] at hn
  exact fun x hx => (List.nodup_append.mp hn).2.2 x.id (List.mem_map_of_mem hx) e.id (List.mem_map_of_mem he)

theorem underWay_sent (w : Watch) (bound : Nat) (replies : Replies) (hl : w.loop = none) (hr : w.runs = []) :
    UnderWay w bound w.nextKey w.probed [] (w.cycleSent bound replies) where
  rounds := ⟨[], rfl, .nil, .nil⟩
  loop := hl
  runs := hr
  clock := rfl
  limit := rfl
  probes := rfl
  perm := .refl _
  treated := treated_nil
  past := by simp

/-! What lands -/

theorem insertCheck_perm (c : Check) (cs : List Check) : (Round.insertCheck c cs).Perm (c :: cs) := by
  induction cs with
  | nil => exact .refl _
  | cons x cs ih =>
    unfold Round.insertCheck
    split
    · exact .refl _
    · exact (ih.cons x).trans (.swap ..)

theorem insertCheck_ascending {c : Check} {cs : List Check} (h : cs.Pairwise fun a b => a.endpoint ≤ b.endpoint) :
    (Round.insertCheck c cs).Pairwise fun a b => a.endpoint ≤ b.endpoint := by
  induction cs with
  | nil => simp [Round.insertCheck]
  | cons x cs ih =>
    obtain ⟨hx, hcs⟩ := List.pairwise_cons.mp h
    unfold Round.insertCheck
    split
    · rename_i hc
      refine List.pairwise_cons.mpr ⟨fun a ha => ?_, h⟩
      rcases List.mem_cons.mp ha with rfl | ha
      · exact hc
      · exact String.le_trans hc (hx a ha)
    · rename_i hc
      refine List.pairwise_cons.mpr ⟨fun a ha => ?_, ih hcs⟩
      rcases List.mem_cons.mp ((insertCheck_perm c cs).mem_iff.mp ha) with rfl | ha
      · exact (String.le_total x.endpoint a.endpoint).resolve_right hc
      · exact hx a ha

/-- The first probe that is due is that of one of the endpoints. -/
theorem landed?_map {flight : Endpoint → Flight} {now : Nat} {f : Flight} {fs : List Flight}
    (hl : Round.landed? now (left.map flight) = some (f, fs)) : ∃ pre e post, left = pre ++ e :: post ∧
      f = flight e ∧ fs = (pre ++ post).map flight ∧ f.landing ≤ now := by
  induction left generalizing fs with
  | nil => simp [Round.landed?] at hl
  | cons x left ih =>
    rw [List.map_cons] at hl
    unfold Round.landed? at hl
    split at hl
    · rename_i hx
      cases hl
      exact ⟨[], x, left, rfl, rfl, rfl, hx⟩
    · obtain ⟨⟨g, gs⟩, hg, hgs⟩ := Option.map_eq_some_iff.mp hl
      cases hgs
      obtain ⟨pre, e, post, rfl, rfl, rfl, he⟩ := ih hg
      exact ⟨x :: pre, e, post, rfl, rfl, rfl, he⟩

theorem UnderWay.step_eq {cs : List Check} (h : UnderWay w bound key left landed u)
    (hr : u.rounds = [(key, { flights := left.map (w.flightOf bound), checks := cs })]) :
    u.step? = u.land? key { flights := left.map (w.flightOf bound), checks := cs } := by
  simp [step?, probeStep?, loopStep?, sessionStep?, h.loop, h.runs, hr]

theorem exists_applyOutcome {id : String} {o : ProbeOutcome} (he : u.store.registry.find? id = some e) :
    ∃ store files, store.registry = u.store.registry.put (e.applied u.limit o).endpoint ∧ u.applyOutcome id o =
      ({ u with store, files }.note (e.applied u.limit o).events, some (e.applied u.limit o)) := by
  simp only [applyOutcome, Store.applyOutcome, Failover.apply_of_find? he]
  exact ⟨_, _, rfl, rfl⟩

/-- With each step one more probe lands. -/
theorem UnderWay.land (h : UnderWay w bound key left landed u) (hs : u.step? = some u') :
    ∃ e left', left.Perm (e :: left') ∧ UnderWay w bound key left' (e :: landed) u' ∧ u'.now = u.now := by
  obtain ⟨cs, hr, hp, ha⟩ := h.rounds
  rw [h.step_eq hr] at hs
  obtain ⟨f, fs, hf, rfl⟩ := land_spec hs
  obtain ⟨pre, e, post, rfl, rfl, rfl, hdue⟩ := landed?_map hf
  have he : e ∈ pre ++ e :: post := by simp
  have hfind : u.store.registry.find? e.id = some e :=
    h.treated.find?_eq (find?_of_mem_probed (h.mem_of_left he)) (h.apart he)
  let r : Round := { flights := (pre ++ e :: post).map (w.flightOf bound), checks := cs }
  obtain ⟨store, files, hstore, happly⟩ := exists_applyOutcome (o := w.verdict bound e) hfind
  rw [h.limit] at hstore happly
  have houtcome : u.outcome r (w.flightOf bound e) = u.applyOutcome e.id (w.verdict bound e) := by
    simp only [outcome, r, Bool.false_eq_true, if_false, h.clock]
    rfl
  have hcheck : u.checkOf r (w.flightOf bound e) = e.check w.limit (w.verdict bound) := by
    simp only [checkOf, houtcome, happly, h.clock]
    rfl
  refine ⟨e, pre ++ post, List.perm_middle, ?_, by rw [Watch.landed, houtcome, happly]; rfl⟩
  rw [Watch.landed, hcheck, houtcome, happly]
  constructor
  case rounds =>
    refine ⟨Round.insertCheck (e.check w.limit (w.verdict bound)) cs, by simp [note, hr], ?_, insertCheck_ascending ha⟩
    exact (insertCheck_perm _ _).trans (hp.cons _)
  case loop => exact h.loop
  case runs => exact h.runs
  case clock => exact h.clock
  case limit => rfl
  case probes => exact h.probes
  case perm => exact (List.perm_middle.symm.trans (List.perm_middle.append_left landed).symm).trans h.perm
  case treated =>
    change Treated _ _ _ _ store.registry
    rw [hstore]
    exact h.treated.cons (h.apart he)
  case past =>
    intro x hx
    rcases List.mem_cons.mp hx with rfl | hx
    · exact hdue
    · exact h.past x hx

/-! What happens until the last probe has landed -/

theorem UnderWay.settleWithin (h : UnderWay w bound key left landed u) {n : Nat} (hn : left.length < n) :
    ∃ left' landed', UnderWay w bound key left' landed' (settleWithin n u) ∧ (Watch.settleWithin n u).now = u.now ∧
      ∀ e ∈ left', u.now < (w.flightOf bound e).landing := by
  induction n generalizing u left landed with
  | zero => exact absurd hn (Nat.not_lt_zero _)
  | succ n ih =>
    unfold Watch.settleWithin
    cases hs : u.step? with
    | none =>
      refine ⟨left, landed, h, rfl, fun e he => ?_⟩
      obtain ⟨cs, hr, -⟩ := h.rounds
      rw [h.step_eq hr, land?, Option.map_eq_none_iff] at hs
      exact landed?_eq_none hs _ (List.mem_map_of_mem he)
    | some u' =>
      obtain ⟨e, left', hp, h', hnow⟩ := h.land hs
      have hlength : left'.length < n := by
        have := hp.length_eq
        simp only [List.length_cons] at this
        omega
      rw [← hnow]
      exact ih h' hlength

/-- The bound on the steps is large enough for all probes that are due to land. -/
theorem UnderWay.settle (h : UnderWay w bound key left landed u) : ∃ left' landed',
    UnderWay w bound key left' landed' u.settle ∧ u.settle.now = u.now ∧
      ∀ e ∈ left', u.now < (w.flightOf bound e).landing := by
  refine h.settleWithin ?_
  obtain ⟨cs, hr, -⟩ := h.rounds
  simp only [load, hr, h.runs, List.foldl_nil, List.foldl_cons, List.length_map]
  omega

theorem UnderWay.isOver_iff (h : UnderWay w bound key left landed u) : u.isOver key = true ↔ left = [] := by
  obtain ⟨cs, hr, -⟩ := h.rounds
  simp [isOver, round?, hr, Round.isOver]

theorem UnderWay.next_eq (h : UnderWay w bound key left landed u) :
    u.next? = ((left.map fun e => (w.flightOf bound e).landing).filter (u.now < ·)).min? := by
  obtain ⟨cs, hr, -⟩ := h.rounds
  simp [next?, hr, h.loop, h.runs, Round.due, Function.comp_def]

/-- An instant at which the round begins or a probe of it lands. -/
def Notable (w : Watch) (bound t : Nat) : Prop := t = w.now ∨ ∃ e ∈ w.probed, (w.flightOf bound e).landing = t

/-- Time passes from one landing to the next until nothing is on its way. -/
theorem UnderWay.awaitFrom {now last : Nat} (h : UnderWay w bound key left landed { u with now := now })
    (hnow : w.Notable bound now) (hlast : ∀ e ∈ w.probed, (w.flightOf bound e).landing ≤ last) : ∃ landed',
      UnderWay w bound key [] landed' (awaitFrom (·.isOver key) now last u).1 ∧
        w.Notable bound (Watch.awaitFrom (·.isOver key) now last u).1.now := by
  fun_induction Watch.awaitFrom (·.isOver key) now last u generalizing left landed with
  | case1 now u u₁ =>
    rename_i hdone
    obtain ⟨left', landed', h', hsame, -⟩ := h.settle
    obtain rfl := h'.isOver_iff.mp hdone
    exact ⟨landed', h', hsame.symm ▸ hnow⟩
  | case2 now u u₁ hdone t hnext hbounds =>
    rename_i ih
    obtain ⟨left', landed', h', -, -⟩ := h.settle
    replace hnext := h'.next_eq.symm.trans hnext
    rw [List.min?_eq_some_iff, List.mem_filter, List.mem_map] at hnext
    obtain ⟨⟨⟨e, he, rfl⟩, hlt⟩, -⟩ := hnext
    refine ih { h' with past := fun x hx => ?_ } (.inr ⟨e, h'.mem_of_left he, rfl⟩)
    exact Nat.le_trans (h'.past x hx) (of_decide_eq_true hlt).le
  | case3 now u u₁ hdone t hnext =>
    rename_i hbounds
    obtain ⟨left', landed', h', hsame, -⟩ := h.settle
    replace hnext := h'.next_eq.symm.trans hnext
    rw [List.min?_eq_some_iff, List.mem_filter, List.mem_map, hsame] at hnext
    obtain ⟨⟨⟨e, he, rfl⟩, hlt⟩, -⟩ := hnext
    exact (hbounds ⟨of_decide_eq_true hlt, hlast e (h'.mem_of_left he)⟩).elim
  | case4 now u u₁ hdone =>
    rename_i hnext
    obtain ⟨left', landed', h', hsame, hleft⟩ := h.settle
    replace hnext := h'.next_eq.symm.trans hnext
    rw [List.min?_eq_none_iff, List.filter_eq_nil_iff, hsame] at hnext
    cases left' with
    | nil => exact (hdone (h'.isOver_iff.mpr rfl)).elim
    | cons e left' => exact (hnext _ List.mem_cons_self (decide_eq_true (hleft e List.mem_cons_self))).elim

theorem UnderWay.await {ms : Nat} (h : UnderWay w bound key left landed u) (hnow : w.Notable bound u.now)
    (hlast : ∀ e ∈ w.probed, (w.flightOf bound e).landing ≤ u.now + ms) (hms : ms ≠ 0) : ∃ landed',
      UnderWay w bound key [] landed' (u.await (·.isOver key) ms).1 ∧
        w.Notable bound (u.await (·.isOver key) ms).1.now := by
  unfold Watch.await
  rw [if_neg hms]
  split
  · rename_i hover
    obtain ⟨left', landed', h', hsame, hleft⟩ := h.settle
    obtain rfl := h.isOver_iff.mp hover
    have hnone : left' = [] := by
      refine List.eq_nil_iff_forall_not_mem.mpr fun e he => ?_
      have hlanded : e ∈ landed := by
        simpa using h.perm.mem_iff.mpr (h'.mem_of_left he)
      exact Nat.not_lt.mpr (h.past e hlanded) (hleft e he)
    subst hnone
    exact ⟨landed', h', hsame.symm ▸ hnow⟩
  · exact UnderWay.awaitFrom h hnow hlast

/-! What a round comes to -/

theorem eq_of_probed {x y : Endpoint} (hx : x ∈ w.probed) (hy : y ∈ w.probed) (hid : x.id = y.id) : x = y := by
  have hfind := find?_of_mem_probed hx
  rw [hid, find?_of_mem_probed hy] at hfind
  exact (Option.some.inj hfind).symm

/-- Once all probes have landed their checks stand by id. -/
theorem UnderWay.rounds_eq (h : UnderWay w bound key [] landed u) :
    u.rounds = [(key, { flights := [], checks := w.probed.map (Endpoint.check w.limit (w.verdict bound)) })] := by
  obtain ⟨cs, hr, hp, ha⟩ := h.rounds
  have hlanded : landed.Perm w.probed := by simpa using h.perm
  have hchecks : cs = w.probed.map (Endpoint.check w.limit (w.verdict bound)) := by
    refine (hp.trans (hlanded.map _)).eq_of_pairwise (fun a b hma hmb hab hba => ?_) ha ?_
    · obtain ⟨x, hx, rfl⟩ := List.mem_map.mp ((hp.trans (hlanded.map _)).mem_iff.mp hma)
      obtain ⟨y, hy, rfl⟩ := List.mem_map.mp hmb
      rw [eq_of_probed hx hy (String.le_antisymm hab hba)]
    · exact List.pairwise_map.mpr ((ascending_probed w).imp Std.le_of_lt)
  rw [hr, hchecks]
  rfl

theorem UnderWay.registry_eq (h : UnderWay w bound key [] landed u) :
    u.store.registry = (Failover.inTurn w.limit (w.verdict bound) w.store.registry w.probed).1 := by
  have hlanded : landed.Perm w.probed := by simpa using h.perm
  exact (h.treated.perm hlanded).unique (treated_inTurn (fun _ => find?_of_mem_probed) (nodup_probed w)).2

/-- The last landing ends the round. -/
theorem UnderWay.now_eq (h : UnderWay w bound key [] landed u) (hnow : w.Notable bound u.now) :
    u.now = w.now + (w.probed.map fun e => (w.replyTo e).lasting bound).foldr max 0 := by
  have hlanded : landed.Perm w.probed := by simpa using h.perm
  have hpast : ∀ e ∈ w.probed, w.now + (w.replyTo e).lasting bound ≤ u.now := fun e he =>
    h.past e (hlanded.mem_iff.mpr he)
  have hmost : (w.probed.map fun e => (w.replyTo e).lasting bound).foldr max 0 ≤ u.now - w.now := by
    refine List.max_le_of_forall_le _ _ fun n hn => ?_
    obtain ⟨e, he, rfl⟩ := List.mem_map.mp hn
    exact Nat.le_sub_of_add_le' (hpast e he)
  rcases hnow with hnow | ⟨e, he, hnow⟩
  · omega
  · have hleast : (w.replyTo e).lasting bound ≤ (w.probed.map fun e => (w.replyTo e).lasting bound).foldr max 0 :=
      List.le_max_of_le (List.mem_map_of_mem he) (Nat.le_refl _)
    have hlanding : w.now + (w.replyTo e).lasting bound = u.now := hnow
    omega

theorem lasting_le (bound : Nat) (r : Reply) : r.lasting bound ≤ bound := by
  unfold Reply.lasting
  split
  · exact Nat.min_le_right ..
  · exact Nat.le_refl _

theorem Calm.cycle (h : Calm w ms) : ∃ w' key, w.startCycle? = some (w', key) ∧
    RoundInTurn w (ms + 500) (w'.finishRound key).1 (w'.finishRound key).2 := by
  obtain ⟨replies, hstart⟩ := h.startCycle
  refine ⟨_, _, hstart, ?_⟩
  have hlast : ∀ e ∈ w.probed, (w.flightOf (ms + 500) e).landing ≤ w.now + horizon := by
    intro e _
    have hlasting := lasting_le (ms + 500) (w.replyTo e)
    have hfits : ms + 500 ≤ horizon - 1 := h.fits
    change w.now + (w.replyTo e).lasting (ms + 500) ≤ w.now + horizon
    omega
  obtain ⟨landed, hover, hnow⟩ :=
    (underWay_sent w (ms + 500) replies h.loop h.runs).await (.inl rfl) hlast (by decide)
  rw [finishRound]
  generalize ((w.cycleSent (ms + 500) replies).await (·.isOver w.nextKey) horizon) = x at hover hnow
  obtain ⟨u, done⟩ := x
  have hrounds := hover.rounds_eq
  simp only at hrounds
  have hround : u.round? w.nextKey =
      some { flights := [], checks := w.probed.map (Endpoint.check w.limit (w.verdict (ms + 500))) } := by
    simp [round?, hrounds]
  have hturn : (Failover.inTurn w.limit (w.verdict (ms + 500)) w.store.registry w.probed).2 = _ :=
    (treated_inTurn (fun _ => find?_of_mem_probed) (nodup_probed w)).1
  simp only [hround, Option.getD_some]
  constructor
  case probes => exact hover.probes
  case endpoints => simp [Endpoint.check, Function.comp_def]
  case ascending => simpa [Endpoint.check, Function.comp_def, List.pairwise_map] using ascending_probed w
  case outcomes => simp [Endpoint.check, Function.comp_def]
  case checks => exact hturn.symm
  case registry => exact hover.registry_eq
  case disabled => rw [hturn, Round.autoDisabled]
  case now => exact hover.now_eq hnow

end Watch

/-- A health cycle while nothing else is at work, however the replies come: it probes each endpoint in use once, gives
up each probe at its own bound, and comes to what the outcomes come to in turn. It is over when the last probe is. -/
theorem Service.cycle_inTurn {s : Service} {ms : Nat} (h : s.watch.Calm ms) :
    ∃ w round, s.cycle = ({ s with watch := w }, .ok round) ∧ s.watch.RoundInTurn (ms + 500) w round := by
  obtain ⟨w, key, hstart, hround⟩ := h.cycle
  refine ⟨_, _, ?_, hround⟩
  rw [cycle, hstart]

/-- One proxy hangs, one answers after a while, one refuses at once, and one is out of use. -/
theorem Service.cycle_inTurn_hanging : ∃ s : Service, s.watch.Calm 10000 ∧
    ∃ w round, s.cycle = ({ s with watch := w }, .ok round) ∧ s.watch.RoundInTurn 10500 w round ∧
      w.now = 10500 ∧ round.autoDisabled = ["a", "c"] := by
  let endpoint (id url : String) (enabled : Bool) : Endpoint := { id, url, priority := 0, enabled }
  let replies : Replies := ⟨[("http://a:1", { further := some { delay := none, result := .error (.transport "") } }),
    ("http://b:1", { further := some { delay := some 700, result := .ok { status := 204, took := .ofMillis 700 } } })]⟩
  let s : Service :=
    { config := {}
      watch :=
        { clock := default, replies
          store := { registry := .ofList [endpoint "c" "http://c:1" true, endpoint "a" "http://a:1" true,
            endpoint "d" "http://a:1" false, endpoint "b" "http://b:1" true] } } }
  have hcalm : s.watch.Calm 10000 := by
    refine ⟨rfl, rfl, rfl, ?_, rfl, by decide⟩
    decide +kernel
  obtain ⟨w, round, hcycle, hround⟩ := Service.cycle_inTurn hcalm
  refine ⟨s, hcalm, w, round, hcycle, hround, ?_, ?_⟩
  · rw [hround.now]
    decide +kernel
  · rw [hround.disabled]
    decide +kernel

end ProxyWatch
