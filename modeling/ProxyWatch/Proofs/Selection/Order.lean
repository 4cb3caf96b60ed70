import Mathlib.Data.List.Permutation
import Mathlib.Data.Prod.Lex
import Mathlib.Order.WithBot
import ProxyWatch.Proofs.Selection.Ranking
import ProxyWatch.Proofs.Text.Bytes

/-! The order of selectable endpoints. No two endpoints of different ids have the same standing, so that the ranking does
not depend on how the endpoints are listed, and the first of it not on what becomes worse. -/
namespace ProxyWatch.Selection

/-- An average response time, with a missing one behind all others. -/
def timeRank (t : Option Nat) : WithTop ℕ := t.elim ⊤ WithTop.some

/-- What endpoints are ranked by: healthy ones before degraded ones, then priority, then the average response time with
a missing one behind all others, then the bytes of the id. -/
def standing (e : Endpoint) : ℕ ×ₗ ℕ ×ₗ WithTop ℕ ×ₗ List ℕ :=
  toLex (if e.status = .healthy then 0 else 1, toLex (e.priority, toLex (timeRank e.averageMs, utf8 e.id)))

/-- A change for the worse: nothing that an endpoint is ranked by gets better. -/
inductive Setback (e : Endpoint) : Option Endpoint → Prop
  | removed : Setback e none
  | disabled : Setback e (some { e with enabled := false })
  | lowered {priority : Nat} (h : e.priority ≤ priority) : Setback e (some { e with priority })
  /-- A health update that says that it has failed, whatever else it says. -/
  | failed {u : HealthUpdate} (h : u.status = .failed) : Setback e (some (e.update u))

/-- The endpoints with another one instead of one of them, or none. -/
def exchange (e : Endpoint) (other : Option Endpoint) (es : List Endpoint) : List Endpoint :=
  es.filterMap fun x => if x = e then other else some x

/-- No two of the endpoints have the same id. -/
def Distinct (es : List Endpoint) : Prop := es.Pairwise fun a b => a.id ≠ b.id

variable {es es' : List Endpoint} {a b e x : Endpoint} {other : Option Endpoint} {fallback : Bool}

/-! Comparing two endpoints -/

theorem compare_bucket (ha : isCandidate a = true) (hb : isCandidate b = true) :
    compare (bucket a.status) (bucket b.status) =
      compare (if a.status = .healthy then 0 else 1) (if b.status = .healthy then 0 else 1) := by
  obtain ⟨-, ha | ha⟩ := isCandidate_iff.mp ha <;> obtain ⟨-, hb | hb⟩ := isCandidate_iff.mp hb <;> rw [ha, hb] <;> rfl

theorem timeRank_inj {s t : Option Nat} : timeRank s = timeRank t ↔ s = t := by
  cases s <;> cases t <;> simp [timeRank]

theorem compareTimes_eq_lt {s t : Option Nat} : compareTimes s t = .lt ↔ timeRank s < timeRank t := by
  cases s <;> cases t <;> simp [compareTimes, timeRank, Nat.compare_eq_lt]

theorem compareTimes_eq_eq {s t : Option Nat} : compareTimes s t = .eq ↔ timeRank s = timeRank t := by
  rw [timeRank_inj]
  cases s <;> cases t <;> simp [compareTimes]

theorem compare_string_eq_lt {s t : String} : compare s t = .lt ↔ utf8 s < utf8 t := by
  rw [← lt_iff_utf8_lt]
  exact compareOfLessAndEq_eq_lt

theorem prefer_eq_lt_iff (ha : isCandidate a = true) (hb : isCandidate b = true) :
    prefer a b = .lt ↔ standing a < standing b := by
  rw [standing, standing, Prod.Lex.toLex_lt_toLex, Prod.Lex.toLex_lt_toLex, Prod.Lex.toLex_lt_toLex, prefer,
    compare_bucket ha hb]
  simp only [Ordering.then_eq_lt, Nat.compare_eq_lt, Nat.compare_eq_eq, compareTimes_eq_lt, compareTimes_eq_eq,
    compare_string_eq_lt]

theorem prefer_eq_lt_of_isLE (hid : a.id ≠ b.id) (h : (prefer a b).isLE = true) : prefer a b = .lt := by
  rcases Ordering.isLE_iff_eq_lt_or_eq_eq.mp h with hlt | heq
  · exact hlt
  · simp only [prefer, Ordering.then_eq_eq] at heq
    exact absurd (Std.LawfulEqOrd.eq_of_compare heq.2.2.2) hid

/-! The ranking -/

theorem distinct_iff_nodup : Distinct es ↔ (es.map (·.id)).Nodup := by
  rw [List.nodup_iff_pairwise_ne, List.pairwise_map]
  exact Iff.rfl

theorem Distinct.perm (h : Distinct es) (hp : es'.Perm es) : Distinct es' := by
  rw [distinct_iff_nodup] at h ⊢
  exact (hp.map _).nodup_iff.mpr h

theorem snapshot_perm (es : List Endpoint) : (snapshot es).Perm es := List.mergeSort_perm _ _

/-- The ranking rises strictly. -/
theorem ascending_rank (h : Distinct es) : (rank es).Pairwise fun a b => standing a < standing b := by
  have hids : (rank es).Pairwise fun a b => a.id ≠ b.id :=
    Distinct.perm (h.filter isCandidate) (List.mergeSort_perm _ _)
  have hboth := (pairwise_rank es).and hids
  refine hboth.imp_of_mem ?_
  rintro a b ha hb ⟨hle, hid⟩
  exact (prefer_eq_lt_iff (mem_rank.mp ha).2 (mem_rank.mp hb).2).mp (prefer_eq_lt_of_isLE hid hle)

/-- There is one ranking of what is selectable. -/
theorem rank_congr (h : Distinct es) (h' : Distinct es')
    (hmem : ∀ e, isCandidate e = true → (e ∈ es ↔ e ∈ es')) : rank es = rank es' := by
  have hnodup : ∀ {xs}, Distinct xs → (rank xs).Nodup := fun hx =>
    (ascending_rank hx).imp fun hlt heq => absurd (heq ▸ hlt) (lt_irrefl _)
  have hperm : (rank es).Perm (rank es') := by
    refine (List.perm_ext_iff_of_nodup (hnodup h) (hnodup h')).mpr fun e => ?_
    rw [mem_rank, mem_rank]
    exact and_congr_left fun hc => hmem e hc
  exact hperm.eq_of_pairwise (fun a b _ _ hab hba => (lt_asymm hab hba).elim) (ascending_rank h) (ascending_rank h')

theorem select_eq (es : List Endpoint) (fallback : Bool) : select es fallback =
    (rank es).head?.elim (if fallback then .ok .direct else .error .noProxyAvailable) fun e => .ok (.endpoint e) := by
  cases hr : rank es <;> simp only [select, hr, List.head?_nil, List.head?_cons, Option.elim]

/-- The selected endpoint is the one that stands before all others that are selectable. -/
theorem select_endpoint_iff (h : Distinct es) : select es fallback = .ok (.endpoint e) ↔
    e ∈ es ∧ isCandidate e = true ∧ ∀ x ∈ es, isCandidate x = true → x = e ∨ standing e < standing x := by
  have hasc := ascending_rank h
  rw [select_eq]
  cases hr : rank es with
  | nil =>
    have hnone : ∀ x ∈ es, ¬ isCandidate x = true := by
      intro x hx hc
      have hm : x ∈ rank es := mem_rank.mpr ⟨hx, hc⟩
      simp [hr] at hm
    refine iff_of_false ?_ fun he => hnone e he.1 he.2.1
    rw [List.head?_nil, Option.elim_none]
    split <;> simp
  | cons first rest =>
    rw [hr] at hasc
    have hfirst : first ∈ es ∧ isCandidate first = true := mem_rank.mp (hr ▸ List.mem_cons_self)
    have hbest : ∀ x ∈ es, isCandidate x = true → x = first ∨ standing first < standing x := by
      intro x hx hc
      have hm : x ∈ rank es := mem_rank.mpr ⟨hx, hc⟩
      rw [hr, List.mem_cons] at hm
      exact hm.imp_right ((List.pairwise_cons.mp hasc).1 x)
    rw [List.head?_cons, Option.elim_some, Except.ok.injEq, Choice.endpoint.injEq]
    constructor
    · rintro rfl
      exact ⟨hfirst.1, hfirst.2, hbest⟩
    · rintro ⟨he, hc, hall⟩
      rcases hbest e he hc with heq | hlt
      · exact heq.symm
      · exact (hall first hfirst.1 hfirst.2).resolve_right (lt_asymm hlt)

/-! Setbacks -/

theorem Setback.id_eq (h : Setback e (some x)) : x.id = e.id := by
  cases h <;> rfl

/-- What is selectable after a setback was so before, and stood no worse. -/
theorem Setback.standing_le (h : Setback e (some x)) (hx : isCandidate x = true) :
    isCandidate e = true ∧ standing e ≤ standing x := by
  cases h with
  | disabled => simp [isCandidate] at hx
  | failed hu =>
    obtain ⟨-, hs⟩ := isCandidate_iff.mp hx
    rcases hs with hs | hs <;> cases hu.symm.trans hs
  | lowered hle =>
    refine ⟨hx, ?_⟩
    rw [standing, standing, Prod.Lex.toLex_le_toLex, Prod.Lex.toLex_le_toLex]
    refine .inr ⟨rfl, ?_⟩
    rcases Nat.lt_or_eq_of_le hle with hlt | rfl
    · exact .inl hlt
    · exact .inr ⟨rfl, le_refl _⟩

theorem mem_exchange : x ∈ exchange e other es ↔ (x ∈ es ∧ x ≠ e) ∨ (e ∈ es ∧ other = some x) := by
  rw [exchange, List.mem_filterMap]
  constructor
  · rintro ⟨y, hy, he⟩
    split at he
    · rename_i hye
      exact .inr ⟨hye ▸ hy, he⟩
    · rename_i hye
      cases he
      exact .inl ⟨hy, hye⟩
  · rintro (⟨hx, hne⟩ | ⟨he, rfl⟩)
    · exact ⟨x, hx, if_neg hne⟩
    · exact ⟨e, he, if_pos rfl⟩

theorem Distinct.exchange (h : Distinct es) (hs : Setback e other) : Distinct (exchange e other es) := by
  refine List.Pairwise.filterMap _ ?_ h
  intro a b hab x hx y hy
  have hid : ∀ {z w}, (if z = e then other else some z) = some w → w.id = z.id := by
    intro z w hw
    split at hw
    · rename_i hz
      rw [hz]
      rw [hw] at hs
      exact hs.id_eq
    · cases hw
      rfl
  rw [hid hx, hid hy]
  exact hab

/-- A setback of an endpoint that is not selected does not matter. -/
theorem select_exchange (h : Distinct es) (he : e ∈ es) (hs : Setback e other)
    (hne : select es fallback ≠ .ok (.endpoint e)) :
    select (exchange e other es) fallback = select es fallback := by
  by_cases hex : ∃ b, select es fallback = .ok (.endpoint b)
  · obtain ⟨b, hb⟩ := hex
    obtain ⟨hbm, hbc, hbest⟩ := (select_endpoint_iff h).mp hb
    have hbe : b ≠ e := by
      rintro rfl
      exact hne hb
    rw [hb, select_endpoint_iff (h.exchange hs)]
    refine ⟨mem_exchange.mpr (.inl ⟨hbm, hbe⟩), hbc, fun x hx hc => ?_⟩
    rcases mem_exchange.mp hx with ⟨hx, -⟩ | ⟨-, rfl⟩
    · exact hbest x hx hc
    · obtain ⟨hce, hle⟩ := hs.standing_le hc
      have hlt := (hbest e he hce).resolve_left fun heq => hbe heq.symm
      exact .inr (lt_of_lt_of_le hlt hle)
  · have hnone : ∀ x ∈ es, isCandidate x = false := none_of_select fun b hb => hex ⟨b, hb⟩
    rw [select_of_none hnone]
    refine select_of_none fun x hx => ?_
    rcases mem_exchange.mp hx with ⟨hx, -⟩ | ⟨-, rfl⟩
    · exact hnone x hx
    · by_contra hc
      have hce := (hs.standing_le (by simpa using hc)).1
      rw [hnone e he] at hce
      cases hce

/-! Snapshots -/

/-- What can be said of the ranking of a snapshot and of the endpoint selected from it. -/
structure Ordered (es : List Endpoint) (fallback : Bool) : Prop where
  /-- Exactly the selectable endpoints are ranked. -/
  mem_iff : ∀ e, e ∈ rank (snapshot es) ↔ e ∈ es ∧ e.enabled = true ∧ (e.status = .healthy ∨ e.status = .degraded)
  /-- Each is ranked once, behind those that stand before it. -/
  ascending : (rank (snapshot es)).Pairwise fun a b => standing a < standing b
  /-- The first one is selected. -/
  first : ∀ e rest, rank (snapshot es) = e :: rest → select (snapshot es) fallback = .ok (.endpoint e)
  /-- Without one there is a direct connection, if it is allowed. -/
  none : rank (snapshot es) = [] →
    select (snapshot es) fallback = if fallback then .ok .direct else .error .noProxyAvailable
  /-- The endpoints may be listed in any order. -/
  permuted : ∀ es', es'.Perm es → rank (snapshot es') = rank (snapshot es) ∧
    select (snapshot es') fallback = select (snapshot es) fallback
  /-- The choice stays when any other endpoint has a setback. -/
  steady : ∀ e ∈ es, select (snapshot es) fallback ≠ .ok (.endpoint e) → ∀ other, Setback e other →
    select (snapshot (exchange e other es)) fallback = select (snapshot es) fallback

theorem rank_snapshot (h : Distinct es) : rank (snapshot es) = rank es :=
  rank_congr (h.perm (snapshot_perm es)) h fun _ _ => (snapshot_perm es).mem_iff

theorem select_snapshot (h : Distinct es) (fallback : Bool) : select (snapshot es) fallback = select es fallback := by
  rw [select_eq, select_eq, rank_snapshot h]

/-- Endpoints of different ids are ranked, and one of them is selected, in an order that is total. -/
theorem ordered_of_distinct (es : List Endpoint) (fallback : Bool) (h : Distinct es) : Ordered es fallback := by
  have hrank := rank_snapshot h
  have hselect := select_snapshot h fallback
  constructor
  case mem_iff =>
    intro e
    rw [hrank, mem_rank, isCandidate_iff]
  case ascending =>
    rw [hrank]
    exact ascending_rank h
  case first =>
    intro e rest hr
    rw [select_eq, hr]
    rfl
  case none =>
    intro hr
    rw [select_eq, hr]
    rfl
  case permuted =>
    intro es' hp
    have hsame : rank (snapshot es') = rank (snapshot es) := by
      rw [hrank, rank_snapshot (h.perm hp)]
      exact rank_congr (h.perm hp) h fun _ _ => hp.mem_iff
    refine ⟨hsame, ?_⟩
    rw [select_eq, hsame, select_eq]
  case steady =>
    intro e he hne other hs
    rw [hselect] at hne ⊢
    rw [select_snapshot (h.exchange hs), select_exchange h he hs hne]

/-- Three endpoints that differ in nothing but the response time and the id, and a better one that is disabled. -/
theorem ordered_of_distinct_ties :
    let e (id : String) (averageMs : Option Nat) : Endpoint :=
      { id, url := "http://[::1]:81", priority := 1, status := .degraded, averageMs }
    let best : Endpoint := { e "a" (some 1) with status := .healthy, enabled := false }
    let es := [e "b" none, e "é" (some 7), best, e "z" (some 7)]
    Distinct es ∧ Ordered es false ∧ select (snapshot es) false = .ok (.endpoint (e "z" (some 7))) := by
  intro e best es
  have h : Distinct es := by
    unfold Distinct
    decide
  exact ⟨h, ordered_of_distinct es false h, by cbv⟩

end ProxyWatch.Selection
