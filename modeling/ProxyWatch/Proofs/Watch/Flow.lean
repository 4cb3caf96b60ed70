import ProxyWatch.Proofs.Watch.Cadence

/-! How the program at work goes on by itself: it does what is due, and when it is at rest time passes up to what falls
due next. What is run consists of this, and a wait comes to an end if something is always due in time. -/
namespace ProxyWatch.Watch

/-- The keys and targets can be told apart, and the health loop does not hurry. -/
structure Fit (w : Watch) : Prop where
  distinct : Distinct w
  unhurried : Unhurried w

/-- The program goes on by itself while a condition does not hold. -/
inductive Flow (done : Watch → Bool) (w : Watch) : Watch → Prop
  /-- It does one thing that is due. -/
  | step {w' : Watch} (h : w.step? = some w') : Flow done w w'
  /-- It is at rest, and time passes up to what is due next at most. -/
  | pass {now : Nat} (hs : w.step? = none) (hn : done w = false) (hle : w.now ≤ now)
      (hd : ∀ d ∈ w.due, w.now < d → now ≤ d) : Flow done w { w with now }

/-- It goes on for any time. -/
abbrev Flows (done : Watch → Bool) : Watch → Watch → Prop := Relation.ReflTransGen (Flow done)

variable {w w' : Watch} {done : Watch → Bool} {now last ms : Nat}

theorem Flow.beat (h : Flow done w w') : Beat w w' := by
  cases h with
  | step h => exact beat_of_step h
  | pass hs _ hle hd => exact beat_of_rest hs hle hd

theorem step_checking (h : w.step? = some w') : w'.checking = w.checking := by
  rcases step_cases h with ⟨_, _, -, hl⟩ | hl | ⟨_, -, hr⟩
  · obtain ⟨_, _, _, _, _, _, -, -, rfl⟩ := land_shape hl
    rfl
  · cases loopStep_cases hl with
    | ended | failed => rfl
    | begun _ _ _ hc =>
      obtain ⟨_, _, _, _, -, -, -, -, rfl⟩ := startRound_shape hc
      rfl
  · obtain ⟨_, _, _, -, -, rfl⟩ := runStep_shape hr
    rfl

theorem Fit.step (h : Fit w) (hs : w.step? = some w') : Fit w' :=
  ⟨h.distinct.step hs, by rw [Unhurried, step_checking hs]; exact h.unhurried⟩

theorem Fit.flow (h : Fit w) (hf : Flow done w w') : Fit w' := by
  cases hf with
  | step hs => exact h.step hs
  | pass => exact ⟨{ h.distinct with }, h.unhurried⟩

theorem Fit.flows (h : Fit w) (hf : Flows done w w') : Fit w' := by
  induction hf with
  | refl => exact h
  | tail _ hf ih => exact ih.flow hf

/-- Under a valid configuration the health loop does not hurry. -/
theorem unhurried_of_valid {config : Config} (hv : config.validate = .ok ()) (hc : w.checking = config.checkOptions) :
    Unhurried w := by
  obtain ⟨hpos, hlt, -⟩ := Config.timeout_lt_interval hv
  rw [Unhurried, hc]
  change _ < (Duration.ofSeconds config.health.intervalSeconds).millisUp
  rw [Duration.millisUp_ofSeconds, HealthLoop.tolerance]
  omega

theorem fit_lasting : Lasting Fit where
  distinct := Fit.distinct
  unhurried := Fit.unhurried
  step := Fit.step
  pass h _ _ _ := ⟨{ h.distinct with }, h.unhurried⟩

theorem settle_now (h : Fit w) : w.settle.now = w.now := (fit_lasting.settle h).2.2

/-! What is run -/

theorem settleWithin_flows {n : Nat} (h : Fit w) (hn : w.remaining < n) :
    Flows done w (settleWithin n w) ∧ (settleWithin n w).step? = none := by
  induction n generalizing w with
  | zero => exact absurd hn (Nat.not_lt_zero _)
  | succ n ih =>
    unfold settleWithin
    cases hs : w.step? with
    | none => exact ⟨.refl, hs⟩
    | some w' =>
      have hless := remaining_step h.distinct h.unhurried hs
      obtain ⟨hflows, hrest⟩ := ih (h.step hs) (by omega)
      exact ⟨.head (.step hs) hflows, hrest⟩

theorem settle_flows (h : Fit w) (done : Watch → Bool) : Flows done w w.settle ∧ w.settle.step? = none :=
  settleWithin_flows h (remaining_lt_load w)

/-- Time passes up to the last instant if nothing is due before. -/
theorem flow_last (hs : w.step? = none) (hn : done w = false) (hnow : w.now = now)
    (hbounds : ∀ t, w.next? = some t → ¬ (now < t ∧ t ≤ last)) : Flow done w { w with now := max now last } := by
  refine .pass hs hn (hnow.le.trans (Nat.le_max_left now last)) fun d hd hlt => ?_
  cases hnext : w.next? with
  | none => exact absurd hlt (of_next_none hnext d hd)
  | some t =>
    have hfirst := of_next_some hnext
    have hle := hfirst.2 d hd hlt
    have := hbounds t hnext
    omega

/-- Time passes up to the instant at which something is due next. -/
theorem flow_next (hs : w.step? = none) (hn : done w = false) {t : Nat} (ht : w.next? = some t) :
    Flow done w { w with now := t } := by
  obtain ⟨hlt, hfirst⟩ := of_next_some ht
  exact .pass hs hn hlt.le hfirst

theorem awaitFrom_flows (h : Fit { w with now }) : Flows done { w with now } (awaitFrom done now last w).1 := by
  fun_induction awaitFrom done now last w with
  | case1 now w w₁ => exact (settle_flows h done).1
  | case2 now w w₁ hn t hnext _ ih =>
    obtain ⟨hflows, hrest⟩ := settle_flows h done
    have hnext := hflows.tail (flow_next hrest (by simpa using hn) hnext)
    exact hnext.trans (ih (h.flows hnext))
  | case3 now w w₁ hn t hnext hbounds =>
    obtain ⟨hflows, hrest⟩ := settle_flows h done
    exact hflows.tail (flow_last hrest (by simpa using hn) (settle_now h)
      fun t' ht' => Option.some.inj (hnext.symm.trans ht') ▸ hbounds)
  | case4 now w w₁ hn hnext =>
    obtain ⟨hflows, hrest⟩ := settle_flows h done
    exact hflows.tail (flow_last hrest (by simpa using hn) (settle_now h)
      fun t ht => absurd (hnext.symm.trans ht) (by simp))

theorem await_flows (h : Fit w) (done : Watch → Bool) (ms : Nat) : Flows done w (w.await done ms).1 := by
  unfold await
  split
  · exact (settle_flows h done).1
  · split
    · exact (settle_flows h done).1
    · exact awaitFrom_flows h

theorem advanceFrom_flows (h : Fit { w with now }) :
    Flows (fun _ => false) { w with now } (advanceFrom now last w) := by
  fun_induction advanceFrom now last w with
  | case1 now w w₁ t hnext _ ih =>
    obtain ⟨hflows, hrest⟩ := settle_flows h fun _ => false
    have hnext := hflows.tail (flow_next hrest rfl hnext)
    exact hnext.trans (ih (h.flows hnext))
  | case2 now w w₁ t hnext hbounds =>
    obtain ⟨hflows, hrest⟩ := settle_flows h fun _ => false
    exact hflows.tail (flow_last hrest rfl (settle_now h)
      fun t' ht' => Option.some.inj (hnext.symm.trans ht') ▸ hbounds)
  | case3 now w w₁ hnext =>
    obtain ⟨hflows, hrest⟩ := settle_flows h fun _ => false
    exact hflows.tail (flow_last hrest rfl (settle_now h) fun t ht => absurd (hnext.symm.trans ht) (by simp))

theorem advance_flows (h : Fit w) (ms : Nat) : Flows (fun _ => false) w (w.advance ms) := advanceFrom_flows h

/-! Waits that come to an end -/

/-- As long as a condition does not hold something falls due, no later than at a given instant, and once it holds it
goes on to hold. -/
structure Coming (P : Watch → Prop) (done : Watch → Bool) (last : Nat) : Prop where
  fit : ∀ {w}, P w → Fit w
  flow : ∀ {w w'}, P w → Flow done w w' → P w'
  due : ∀ {w}, P w → w.step? = none → done w = false → ∃ d ∈ w.due, w.now < d ∧ d ≤ last
  lasts : ∀ {w w'}, P w → done w = true → w.step? = some w' → done w' = true

namespace Coming

variable {P : Watch → Prop}

theorem mono {last' : Nat} (hc : Coming P done last) (hle : last ≤ last') : Coming P done last' where
  fit := hc.fit
  flow := hc.flow
  due h hs hn := by
    obtain ⟨d, hd, hlt, hd'⟩ := hc.due h hs hn
    exact ⟨d, hd, hlt, hd'.trans hle⟩
  lasts := hc.lasts

theorem flows (hc : Coming P done last) (h : P w) (hf : Flows done w w') : P w' := by
  induction hf with
  | refl => exact h
  | tail _ hf ih => exact hc.flow ih hf

theorem settle (hc : Coming P done last) (h : P w) : P w.settle ∧ w.settle.step? = none := by
  obtain ⟨hflows, hrest⟩ := settle_flows (hc.fit h) done
  exact ⟨hc.flows h hflows, hrest⟩

theorem settleWithin_lasts (hc : Coming P done last) (h : P w) (hd : done w = true) (n : Nat) :
    done (settleWithin n w) = true := by
  induction n generalizing w with
  | zero => exact hd
  | succ n ih =>
    unfold settleWithin
    split
    · rename_i w' hs
      exact ih (hc.flow h (.step hs)) (hc.lasts h hd hs)
    · exact hd

/-- The wait ends because the condition holds. -/
theorem awaitFrom (hc : Coming P done last) (h : P { w with now }) :
    done (awaitFrom done now last w).1 = true := by
  fun_induction Watch.awaitFrom done now last w with
  | case1 now w w₁ hd => exact hd
  | case2 now w w₁ hn t hnext _ ih =>
    obtain ⟨h₁, hrest⟩ := hc.settle h
    exact ih (hc.flow h₁ (flow_next hrest (by simpa using hn) hnext))
  | case3 now w w₁ hn t hnext hbounds =>
    obtain ⟨h₁, hrest⟩ := hc.settle h
    obtain ⟨d, hd, hlt, hle⟩ := hc.due h₁ hrest (by simpa using hn)
    obtain ⟨hfirst, hmin⟩ := of_next_some hnext
    have hnow : w₁.now = now := settle_now (hc.fit h)
    have := hmin d hd hlt
    omega
  | case4 now w w₁ hn hnext =>
    obtain ⟨h₁, hrest⟩ := hc.settle h
    obtain ⟨d, hd, hlt, -⟩ := hc.due h₁ hrest (by simpa using hn)
    exact absurd hlt (of_next_none hnext d hd)

theorem await (hc : Coming P done (w.now + ms)) (h : P w) (hms : 0 < ms) :
    P (w.await done ms).1 ∧ done (w.await done ms).1 = true := by
  refine ⟨hc.flows h (await_flows (hc.fit h) done ms), ?_⟩
  unfold Watch.await
  split
  · rename_i hd
    exact hc.settleWithin_lasts h hd _
  · rw [if_neg hms.ne']
    exact hc.awaitFrom h

end Coming

end ProxyWatch.Watch
