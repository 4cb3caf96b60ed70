import ProxyWatch.Selection

/-! The selected endpoint is one that no selectable endpoint is preferred to. -/
namespace ProxyWatch.Selection

open Std

instance : TransCmp compareTimes where
  eq_swap {a b} := by
    cases a <;> cases b
    case some.some a b => exact (OrientedOrd.eq_swap : compare a b = (compare b a).swap)
    all_goals rfl
  isLE_trans {a b c} hab hbc := by
    cases a <;> cases b <;> cases c
    case some.some.some a b c =>
      exact (TransOrd.isLE_trans : (compare a b).isLE → (compare b c).isLE → (compare a c).isLE) hab hbc
    all_goals first | rfl | contradiction

instance : TransCmp fun a b : Endpoint => compareTimes a.averageMs b.averageMs where
  eq_swap {a b} := (OrientedCmp.eq_swap : compareTimes a.averageMs b.averageMs = _)
  isLE_trans {a _ c} hab hbc := (TransCmp.isLE_trans hab hbc : (compareTimes a.averageMs c.averageMs).isLE)

/-- Preference goes by bucket, priority, response time and id, in this order. -/
instance : TransCmp prefer := inferInstanceAs <| TransCmp <|
  compareLex (compareOn fun e : Endpoint => bucket e.status) <| compareLex (compareOn Endpoint.priority) <|
    compareLex (fun a b => compareTimes a.averageMs b.averageMs) (compareOn Endpoint.id)

variable {es : List Endpoint} {e x : Endpoint} {fallback : Bool}

theorem mem_rank : e ∈ rank es ↔ e ∈ es ∧ isCandidate e = true := by
  rw [rank, List.mem_mergeSort, List.mem_filter]

/-- The ranking begins with the best and ends with the worst. -/
theorem pairwise_rank (es : List Endpoint) : (rank es).Pairwise fun a b => (prefer a b).isLE = true := by
  refine List.pairwise_mergeSort (fun a b c => TransCmp.isLE_trans) (fun a b => ?_) _
  rw [Bool.or_eq_true]
  by_cases h : (prefer a b).isLE = true
  · exact .inl h
  · right
    have hs : prefer b a = (prefer a b).swap := OrientedCmp.eq_swap
    cases hp : prefer a b <;> simp_all

theorem isCandidate_iff : isCandidate e = true ↔ e.enabled = true ∧ (e.status = .healthy ∨ e.status = .degraded) := by
  cases hs : e.status <;> simp [isCandidate, bucket, hs]

theorem status_of_not_isCandidate (h : isCandidate e = false) (he : e.enabled = true) :
    e.status = .unknown ∨ e.status = .failed := by
  cases hs : e.status <;> simp [isCandidate, bucket, he, hs] at h ⊢

/-- A selected endpoint is selectable, and none is preferred to it. -/
theorem select_endpoint (h : select es fallback = .ok (.endpoint e)) :
    e ∈ es ∧ isCandidate e = true ∧ ∀ x ∈ es, isCandidate x = true → (prefer e x).isLE = true := by
  have hp := pairwise_rank es
  unfold select at h
  split at h
  · rename_i first rest hr
    cases h
    obtain ⟨hm, hc⟩ := mem_rank.mp (hr ▸ List.mem_cons_self : e ∈ rank es)
    refine ⟨hm, hc, fun x hx hcx => ?_⟩
    have hmx : x ∈ rank es := mem_rank.mpr ⟨hx, hcx⟩
    rw [hr] at hp hmx
    rcases List.mem_cons.mp hmx with rfl | hmx
    · exact ReflCmp.isLE_rfl
    · exact (List.pairwise_cons.mp hp).1 x hmx
  · split at h <;> cases h

/-- Without a selectable endpoint there is a direct connection, if it is allowed. -/
theorem select_of_none (h : ∀ x ∈ es, isCandidate x = false) :
    select es fallback = if fallback then .ok .direct else .error .noProxyAvailable := by
  have hr : rank es = [] := List.eq_nil_iff_forall_not_mem.mpr fun x hx => by
    obtain ⟨hm, hc⟩ := mem_rank.mp hx
    simp [h x hm] at hc
  simp only [select, hr]

/-- No endpoint is selected only if none is selectable. -/
theorem none_of_select (h : ∀ e, select es fallback ≠ .ok (.endpoint e)) : ∀ x ∈ es, isCandidate x = false := by
  intro x hx
  cases hr : rank es with
  | cons first rest => exact (h first (by simp only [select, hr])).elim
  | nil =>
    cases hc : isCandidate x with
    | false => rfl
    | true =>
      have hm : x ∈ rank es := mem_rank.mpr ⟨hx, hc⟩
      simp [hr] at hm

/-- A direct connection is chosen only if it is allowed and no endpoint is selectable. -/
theorem select_direct (h : select es fallback = .ok .direct) :
    fallback = true ∧ ∀ x ∈ es, isCandidate x = false := by
  have hnone : ∀ x ∈ es, isCandidate x = false :=
    none_of_select fun e (he : select es fallback = .ok (.endpoint e)) => by simp [h] at he
  rw [select_of_none hnone] at h
  cases fallback with
  | true => exact ⟨rfl, hnone⟩
  | false => cases h

/-- A healthy endpoint is preferred only by healthy ones. -/
theorem healthy_of_prefer (hx : x.status = .healthy) (he : isCandidate e = true)
    (h : (prefer e x).isLE = true) : e.status = .healthy := by
  have hb : (compare (bucket e.status) (bucket x.status)).isLE = true := Ordering.isLE_left_of_isLE_then h
  obtain ⟨-, hs | hs⟩ := isCandidate_iff.mp he
  · exact hs
  · rw [hx, hs] at hb
    contradiction

end ProxyWatch.Selection
