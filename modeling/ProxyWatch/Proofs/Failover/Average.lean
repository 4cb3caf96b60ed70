import ProxyWatch.Proofs.Failover.Streak
import ProxyWatch.Proofs.Number.Accuracy

/-! Averages of response times. A sample is blended in to a whole number that is nearest to
`(3 * sample + 7 * average) / 10`, and so no average leaves the range of its samples. -/
namespace ProxyWatch

namespace MovingAverage

open Binary64

variable {p s : Nat}

theorem isNumber_newest : newest.IsNumber (5404319552844595 / 2 ^ 54) :=
  ⟨5404319552844595, -54, by decide, by norm_num⟩

theorem isNumber_kept : kept.IsNumber (6305039478318694 / 2 ^ 53) :=
  ⟨6305039478318694, -53, by decide, by norm_num⟩

/-- The double that is rounded is within a tenth of the weighted sum. -/
theorem exists_blend_number (hp : p < 2 ^ 48) (hs : s < 2 ^ 48) : ∃ z : ℚ,
    ((newest.mul (.ofNat s)).add (kept.mul (.ofNat p))).IsNumber z ∧ |z - (3 * s + 7 * p) / 10| < 1 / 10 := by
  have hpq : (p : ℚ) < 2 ^ 48 := by exact_mod_cast hp
  have hsq : (s : ℚ) < 2 ^ 48 := by exact_mod_cast hs
  have hp0 : (0 : ℚ) ≤ p := Nat.cast_nonneg p
  have hs0 : (0 : ℚ) ≤ s := Nat.cast_nonneg s
  have hleast := least_error_le
  have hsample := (isWhole_ofNat (hs.trans (by decide))).isNumber
  have haverage := (isWhole_ofNat (hp.trans (by decide))).isNumber
  obtain ⟨v, hv, hverror⟩ := approximates_mul isNumber_newest hsample (lt_overflowBound_of_small (by linarith))
  obtain ⟨w, hw, hwerror⟩ := approximates_mul isNumber_kept haverage (lt_overflowBound_of_small (by linarith))
  obtain ⟨hvup, hvdown⟩ := abs_sub_le_iff.mp hverror
  obtain ⟨hwup, hwdown⟩ := abs_sub_le_iff.mp hwerror
  obtain ⟨z, hz, hzerror⟩ := approximates_add hv hw (lt_overflowBound_of_small (by linarith))
  obtain ⟨hzup, hzdown⟩ := abs_sub_le_iff.mp hzerror
  refine ⟨z, hz, abs_sub_lt_iff.mpr ⟨?_, ?_⟩⟩ <;> linarith

/-- A sample is blended in to a nearest whole number. -/
theorem abs_blend_sub_le (hp : p < 2 ^ 48) (hs : s < 2 ^ 48) :
    |10 * (blend (some p) s : Int) - (3 * s + 7 * p)| ≤ 5 := by
  obtain ⟨z, hz, herror⟩ := exists_blend_number hp hs
  have hpq : (p : ℚ) < 2 ^ 48 := by exact_mod_cast hp
  have hsq : (s : ℚ) < 2 ^ 48 := by exact_mod_cast hs
  obtain ⟨hup, hdown⟩ := abs_sub_lt_iff.mp herror
  have hlimit : z ≤ (maxU64 : Nat) := by
    have hmax : ((2 ^ 49 : Nat) : ℚ) ≤ (maxU64 : Nat) := Nat.cast_le.mpr (by decide)
    push_cast at hmax
    linarith
  have hround : |(blend (some p) s : ℚ) - z| ≤ 1 / 2 := abs_roundToNat_sub_le hz hlimit
  obtain ⟨hrup, hrdown⟩ := abs_sub_le_iff.mp hround
  have hlt : |10 * (blend (some p) s : ℚ) - (3 * s + 7 * p)| < 6 := abs_sub_lt_iff.mpr ⟨by linarith, by linarith⟩
  have hlt : |10 * (blend (some p) s : Int) - (3 * s + 7 * p)| < 6 := by exact_mod_cast hlt
  exact Int.lt_add_one_iff.mp hlt

theorem le_blend_of_le {low : Nat} (hp : p < 2 ^ 48) (hs : s < 2 ^ 48) (hlp : low ≤ p) (hls : low ≤ s) :
    low ≤ blend (some p) s := by
  have hnear := abs_le.mp (abs_blend_sub_le hp hs)
  omega

theorem blend_le_of_le {high : Nat} (hp : p < 2 ^ 48) (hs : s < 2 ^ 48) (hph : p ≤ high) (hsh : s ≤ high) :
    blend (some p) s ≤ high := by
  have hnear := abs_le.mp (abs_blend_sub_le hp hs)
  omega

end MovingAverage

/-- What an average says of its samples. -/
structure Averages (samples : List Nat) (average : Option Nat) : Prop where
  none_iff : average = none ↔ samples = []
  /-- It lies between the smallest and the largest one, -/
  between : ∀ a, average = some a → (∃ low ∈ samples, low ≤ a) ∧ ∃ high ∈ samples, a ≤ high
  /-- and so is the only one there is. -/
  constant : ∀ t, samples ≠ [] → (∀ s ∈ samples, s = t) → average = some t

section
variable {samples : List Nat} {average : Option Nat} {s : Nat}

theorem Averages.nil : Averages [] none where
  none_iff := ⟨fun _ => rfl, fun _ => rfl⟩
  between _ h := by cases h
  constant _ h := absurd rfl h

theorem Averages.of_between {a : Nat} (hlow : ∃ low ∈ samples, low ≤ a) (hhigh : ∃ high ∈ samples, a ≤ high) :
    Averages samples (some a) where
  none_iff := by
    obtain ⟨low, hmem, -⟩ := hlow
    exact iff_of_false (Option.some_ne_none a) (List.ne_nil_of_mem hmem)
  between b h := by
    cases h
    exact ⟨hlow, hhigh⟩
  constant t _ hall := by
    obtain ⟨low, hl, hla⟩ := hlow
    obtain ⟨high, hh, hah⟩ := hhigh
    rw [hall low hl] at hla
    rw [hall high hh] at hah
    rw [Nat.le_antisymm hah hla]

/-- One more sample widens the range to itself at most. -/
theorem Averages.blend (h : Averages samples average) (hsmall : ∀ t ∈ samples ++ [s], t < 2 ^ 48) :
    Averages (samples ++ [s]) (some (MovingAverage.blend average s)) := by
  have hs : s < 2 ^ 48 := hsmall s (by simp)
  cases average with
  | none =>
    rw [h.none_iff.mp rfl]
    exact .of_between ⟨s, by simp, le_rfl⟩ ⟨s, by simp, le_rfl⟩
  | some a =>
    obtain ⟨⟨low, hlow, hla⟩, high, hhigh, hah⟩ := h.between a rfl
    have ha : a < 2 ^ 48 := hah.trans_lt (hsmall high (by simp [hhigh]))
    refine .of_between ?_ ?_
    · rcases Nat.le_total low s with hle | hge
      · exact ⟨low, by simp [hlow], MovingAverage.le_blend_of_le ha hs hla hle⟩
      · exact ⟨s, by simp, MovingAverage.le_blend_of_le ha hs (hge.trans hla) le_rfl⟩
    · rcases Nat.le_total s high with hle | hge
      · exact ⟨high, by simp [hhigh], MovingAverage.blend_le_of_le ha hs hah hle⟩
      · exact ⟨s, by simp, MovingAverage.blend_le_of_le ha hs (hah.trans hge) le_rfl⟩

end

/-! Samples of an endpoint -/

/-- The response time by which an act bears on an endpoint's average. -/
def FailoverAct.sample? (id : String) : FailoverAct → Option Nat
  | outcome id' o => if id' = id ∧ o.level ≠ .failed then some o.responseMs else none
  | reenable _ | setEnabled .. => none

/-- The response times of an endpoint, one after another. -/
def samples (id : String) (acts : List FailoverAct) : List Nat := acts.filterMap (·.sample? id)

section
variable {limit : Nat} {r : Registry} {e : Endpoint} {a : FailoverAct} {acts : List FailoverAct} {id : String}
  {o : ProbeOutcome} {s : Nat}

theorem samples_concat : samples id (acts ++ [a]) = samples id acts ++ (a.sample? id).toList := by
  cases h : a.sample? id <;> simp [samples, h]

theorem FailoverAct.sample?_eq_some :
    a.sample? id = some s ↔ ∃ o, a = .outcome id o ∧ o.level ≠ .failed ∧ o.responseMs = s := by
  cases a with
  | outcome id' o =>
    simp only [sample?, Option.ite_none_right_eq_some, outcome.injEq, Option.some.injEq]
    constructor
    · rintro ⟨⟨hid, hlevel⟩, hs⟩
      exact ⟨o, ⟨hid, rfl⟩, hlevel, hs⟩
    · rintro ⟨_, ⟨hid, rfl⟩, hlevel, hs⟩
      exact ⟨⟨hid, hlevel⟩, hs⟩
  | reenable | setEnabled => simp [sample?]

theorem Endpoint.averageMs_nextUpdate : (e.nextUpdate o limit).averageMs =
    if o.level = .failed then e.averageMs else some (MovingAverage.blend e.averageMs o.responseMs) := by
  cases h : o.level <;> simp [nextUpdate, h]

/-- An act that isn't a sample leaves the average of its endpoint alone. -/
theorem FailoverAct.averageMs_effect (ht : a.target = id) (h : a.sample? id = none) :
    (a.effect limit e).averageMs = e.averageMs := by
  cases a with
  | outcome id' o =>
    obtain rfl : id' = id := ht
    have hfailed : o.level = .failed := by
      by_contra hlevel
      have hsome : (outcome id' o).sample? id' = some o.responseMs := sample?_eq_some.mpr ⟨o, rfl, hlevel, rfl⟩
      rw [h] at hsome
      cases hsome
    exact Endpoint.averageMs_nextUpdate.trans (if_pos hfailed)
  | reenable | setEnabled => rfl

namespace Failover

/-- So does an act that is about another endpoint. -/
theorem averageMs_act (h : a.sample? id = none) :
    ((act limit r a).find? id).map Endpoint.averageMs = (r.find? id).map Endpoint.averageMs := by
  rw [find?_act]
  split
  · rename_i ht
    cases r.find? id with
    | none => rfl
    | some e => exact congrArg some (FailoverAct.averageMs_effect ht h)
  · rfl

/-- A sample is blended into the average. -/
theorem act_blends (limit : Nat) (ho : o.level ≠ .failed) (hx : r.find? id = some e) :
    ∃ x, (act limit r (.outcome id o)).find? id = some x ∧
      x.averageMs = some (MovingAverage.blend e.averageMs o.responseMs) := by
  refine ⟨FailoverAct.effect limit e (.outcome id o), ?_, Endpoint.averageMs_nextUpdate.trans (if_neg ho)⟩
  rw [find?_act, hx]
  exact if_pos rfl

/-- An average that begins with nothing is one of the samples so far. -/
theorem averages_run (limit : Nat) (acts : List FailoverAct) (he : r.find? id = some e) (hn : e.averageMs = none)
    (hs : ∀ s ∈ samples id acts, s < 2 ^ 48) :
    ∃ x, (run limit r acts).find? id = some x ∧ Averages (samples id acts) x.averageMs := by
  induction acts using List.reverseRecOn with
  | nil => exact ⟨e, he, hn ▸ .nil⟩
  | append_singleton acts a ih =>
    rw [samples_concat] at hs ⊢
    obtain ⟨x, hx, haverage⟩ := ih fun s hmem => hs s (List.mem_append_left _ hmem)
    rw [run_concat]
    cases hsample : a.sample? id with
    | none =>
      have hkept : ((act limit (run limit r acts) a).find? id).map Endpoint.averageMs = some x.averageMs := by
        rw [averageMs_act hsample, hx]
        rfl
      obtain ⟨y, hy, hsame⟩ := Option.map_eq_some_iff.mp hkept
      exact ⟨y, hy, by rwa [hsame, Option.toList_none, List.append_nil]⟩
    | some s =>
      obtain ⟨o, rfl, ho, rfl⟩ := FailoverAct.sample?_eq_some.mp hsample
      obtain ⟨y, hy, hblend⟩ := act_blends limit ho hx
      rw [hsample] at hs
      exact ⟨y, hy, hblend ▸ haverage.blend hs⟩

end Failover
end

/-- What is known of an endpoint's average after some acts. -/
structure Averaged (limit : Nat) (r : Registry) (id : String) (acts : List FailoverAct) : Prop where
  current : ∃ x, (Failover.run limit r acts).find? id = some x ∧ Averages (samples id acts) x.averageMs
  /-- An outcome that isn't failed is blended into the average, -/
  blended : ∀ o, o.level ≠ .failed → ∃ x y, (Failover.run limit r acts).find? id = some x ∧
    (Failover.run limit r (acts ++ [.outcome id o])).find? id = some y ∧
    y.averageMs = some (MovingAverage.blend x.averageMs o.responseMs)
  /-- to a nearest whole number, -/
  nearest : ∀ p s, p < 2 ^ 48 → s < 2 ^ 48 →
    |10 * (MovingAverage.blend (some p) s : Int) - (3 * s + 7 * p)| ≤ 5
  /-- and nothing else changes it. -/
  kept : ∀ a, a.sample? id = none → ((Failover.run limit r (acts ++ [a])).find? id).map Endpoint.averageMs =
    ((Failover.run limit r acts).find? id).map Endpoint.averageMs

/-- Whatever acts have followed the insertion of an endpoint without an average, on whichever endpoints. -/
theorem Failover.run_averaged (limit : Nat) (r : Registry) (id : String) (e : Endpoint) (acts : List FailoverAct)
    (he : r.find? id = some e) (hn : e.averageMs = none) (hs : ∀ s ∈ samples id acts, s < 2 ^ 48) :
    Averaged limit r id acts := by
  obtain ⟨x, hx, haverage⟩ := averages_run limit acts he hn hs
  constructor
  case current => exact ⟨x, hx, haverage⟩
  case blended =>
    intro o ho
    obtain ⟨y, hy, hblend⟩ := act_blends limit ho hx
    exact ⟨x, y, hx, by rwa [run_concat], hblend⟩
  case nearest => exact fun p s => MovingAverage.abs_blend_sub_le
  case kept =>
    intro a ha
    rw [run_concat, averageMs_act ha]

/-- Samples of an endpoint with a failed outcome, its return to use and another endpoint's outcome in between. -/
theorem Failover.run_averaged_put :
    let e : Endpoint := { id := "a", url := "http://a:1", priority := 0 }
    let acts : List FailoverAct :=
      [.outcome "a" { level := .healthy, responseMs := 100, checkedAt := default },
        .outcome "a" { level := .failed, responseMs := 2 ^ 60, checkedAt := default }, .reenable "a",
        .outcome "b" { level := .healthy, responseMs := 7, checkedAt := default },
        .outcome "a" { level := .degraded, responseMs := 200, checkedAt := default }]
    (Registry.empty.put e).find? "a" = some e ∧ e.averageMs = none ∧ (∀ s ∈ samples "a" acts, s < 2 ^ 48) ∧
      Averaged 3 (Registry.empty.put e) "a" acts :=
  ⟨Registry.find?_put_self, rfl, by decide, run_averaged 3 _ "a" _ _ Registry.find?_put_self rfl (by decide)⟩

end ProxyWatch
