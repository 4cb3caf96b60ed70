import ProxyWatch.Config.Toml
import ProxyWatch.Proofs.Config
import ProxyWatch.Proofs.Json.Records
import ProxyWatch.Proofs.Toml.Document

/-! A configuration is read back from its document. -/
namespace ProxyWatch

/-! Settings -/

namespace Toml

theorem nat?_int {n limit : Nat} (h : n ≤ limit) : nat? limit (.int n) = some n := by
  have hrange : (0 : Int) ≤ n ∧ (n : Int) ≤ limit := by omega
  simp [nat?, hrange]

theorem list?_arr {α : Type} {read : Toml → Option α} {w : α → Toml} {xs : List α}
    (h : ∀ x ∈ xs, read (w x) = some x) : list? read (.arr (xs.map w)) = some xs := mapM_map_eq h

theorem variables?_table {vs : List (String × String)} (h : vs.Pairwise (·.1 < ·.1)) :
    variables? (.table (vs.map fun v => (v.1, .str v.2))) = some vs := by
  have hm : (vs.map fun v => (v.1, str v.2)).mapM
      (fun m : String × Toml => m.2.string?.map fun s => (m.1, s)) = some vs := mapM_map_eq fun _ _ => rfl
  rw [variables?, hm, Option.map_some, variablesOf_eq h]

theorem Writable.nat {n : Nat} (h : n ≤ maxU64) : Writable (.int n) := by
  have hlow : -(pow2 127 : Int) ≤ n := by omega
  have hhigh : (n : Int) < pow2 128 := by
    have : maxU64 < pow2 128 := by decide
    omega
  refine .inline (.int ?_)
  simp only [Scalar.inRange, Bool.and_eq_true, decide_eq_true_eq]
  exact ⟨hlow, hhigh⟩

end Toml

/-! Sections -/

theorem HealthConfig.ofToml?_toToml {h : HealthConfig} (hi : h.intervalSeconds ≤ maxU64) (ht : h.timeoutSeconds ≤ maxU64) :
    ofToml? h.toToml = some h := by
  simp [ofToml?, toToml, Toml.fields?, Toml.setting, Toml.string?, Toml.nat?_int hi, Toml.nat?_int ht]

theorem FailoverConfig.ofToml?_toToml {c : FailoverConfig} (h : c.maxFailures ≤ maxU32) : ofToml? c.toToml = some c := by
  simp [ofToml?, toToml, Toml.fields?, Toml.setting, Toml.bool?, Toml.nat?_int h]

/-- The numbers of a configuration's supervision are within their bounds. -/
structure SupervisorConfig.Bounded (s : SupervisorConfig) : Prop where
  maxRetries_le : s.maxRetries ≤ maxU32
  firstDelay_le : s.firstDelaySeconds ≤ maxU64
  maxDelay_le : s.maxDelaySeconds ≤ maxU64
  startTimeout_le : s.startTimeoutSeconds ≤ maxU64
  startConfirm_le : s.startConfirmMs ≤ maxU64
  stopGrace_le : s.stopGraceSeconds ≤ maxU64

theorem SupervisorConfig.ofToml?_toToml {s : SupervisorConfig} (h : s.Bounded) : ofToml? s.toToml = some s := by
  simp [ofToml?, toToml, Toml.fields?, Toml.setting, Toml.double?, Toml.nat?_int h.maxRetries_le,
    Toml.nat?_int h.firstDelay_le, Toml.nat?_int h.maxDelay_le, Toml.nat?_int h.startTimeout_le,
    Toml.nat?_int h.startConfirm_le, Toml.nat?_int h.stopGrace_le]

theorem ProxySeed.ofToml?_toToml {s : ProxySeed} (h : s.priority ≤ maxU32) : ofToml? s.toToml = some s := by
  obtain ⟨id, url, priority, enabled, name⟩ := s
  cases name <;> simp [ofToml?, toToml, Toml.fields?, Toml.required, Toml.setting, Toml.settingOption, Toml.string?,
    Toml.bool?, Toml.nat?_int h]

/-- The settings of a capture are read with the variables behind all others. -/
theorem CaptureCommand.finish_toToml (c : CaptureCommand) : (Toml.toEntry c.toToml).finish =
    .table ([("program", .str c.program), ("args", .arr (c.args.map .str)), ("proxy_env", .arr (c.proxyEnv.map .str))] ++
      (match c.workingDir with | some d => [("working_dir", .str d)] | none => []) ++
      [("env", .table (c.env.map fun v => (v.1, .str v.2)))]) := by
  obtain ⟨program, args, proxyEnv, env, workingDir⟩ := c
  rw [toToml, Toml.finish_table, Toml.finish_entries]
  cases workingDir <;> simp [List.filter_cons, Toml.finish_strings]

theorem CaptureCommand.ofToml?_toToml {c : CaptureCommand} (h : c.Storable) :
    ofToml? (Toml.toEntry c.toToml).finish = some c := by
  have hstrings : ∀ ss : List String, Toml.list? Toml.string? (.arr (ss.map .str)) = some ss := fun _ =>
    Toml.list?_arr fun _ _ => rfl
  have henv := Toml.variables?_table h
  rw [finish_toToml]
  obtain ⟨program, args, proxyEnv, env, workingDir⟩ := c
  cases workingDir <;> simp [ofToml?, Toml.fields?, Toml.setting, Toml.settingOption, hstrings, henv, Toml.string?]

/-! Documents -/

open Toml

/-- What the types of a configuration guarantee: numbers fit their widths, the factor has the parts of a double, and
variables stand in their places. -/
structure Config.Storable (c : Config) : Prop where
  maxFailures_le : c.failover.maxFailures ≤ maxU32
  maxRetries_le : c.supervisor.maxRetries ≤ maxU32
  factor_canonical : c.supervisor.factor.IsCanonical
  capture : c.capture.Storable
  priority_le : ∀ p ∈ c.proxies, p.priority ≤ maxU32

theorem maxU32_le : maxU32 ≤ maxU64 := by decide

theorem HealthConfig.writable {h : HealthConfig} (hi : h.intervalSeconds ≤ maxU64) (ht : h.timeoutSeconds ≤ maxU64) :
    Writable h.toToml := by
  refine .table (by simp) ?_
  simp only [List.forall_mem_cons]
  exact ⟨.nat hi, .nat ht, .str _, by simp⟩

theorem FailoverConfig.writable {c : FailoverConfig} (h : c.maxFailures ≤ maxU32) : Writable c.toToml := by
  refine .table (by simp) ?_
  simp only [List.forall_mem_cons]
  exact ⟨Writable.nat (h.trans maxU32_le), .bool _, by simp⟩

theorem SupervisorConfig.writable {s : SupervisorConfig} (h : s.Bounded) (hf : s.factor.IsCanonical) :
    Writable s.toToml := by
  refine .table (by simp) ?_
  simp only [List.forall_mem_cons]
  exact ⟨Writable.nat (h.maxRetries_le.trans maxU32_le), .nat h.firstDelay_le, .nat h.maxDelay_le,
    .inline (.float hf), .nat h.startTimeout_le, .nat h.startConfirm_le, .nat h.stopGrace_le,
    by simp⟩

theorem ProxySeed.writable {s : ProxySeed} (h : s.priority ≤ maxU32) : Writable s.toToml := by
  have hpriority := Writable.nat (h.trans maxU32_le)
  obtain ⟨id, url, priority, enabled, name⟩ := s
  cases name with
  | none =>
    refine .table (by simp) ?_
    simp only [List.append_nil, List.forall_mem_cons]
    exact ⟨.str _, .str _, hpriority, .bool _, by simp⟩
  | some name =>
    refine .table (by simp) ?_
    simp only [List.cons_append, List.nil_append, List.forall_mem_cons]
    exact ⟨.str _, .str _, hpriority, .bool _, .str _, by simp⟩

theorem CaptureCommand.writable {c : CaptureCommand} (h : c.Storable) : Writable c.toToml := by
  have hdistinct : (c.env.map Prod.fst).Nodup := by
    rw [List.nodup_iff_pairwise_ne, List.pairwise_map]
    refine List.Pairwise.imp ?_ h
    intro v w hlt he
    rw [he] at hlt
    exact String.lt_irrefl _ hlt
  have henv : Writable (.table (c.env.map fun v => (v.1, .str v.2))) := by
    refine .table (by rwa [List.map_map]) ?_
    intro m hm
    obtain ⟨v, -, rfl⟩ := List.mem_map.mp hm
    exact .str v.2
  obtain ⟨program, args, proxyEnv, env, workingDir⟩ := c
  cases workingDir with
  | none =>
    refine .table (by simp) ?_
    simp only [List.append_nil, List.forall_mem_cons]
    exact ⟨.str _, .strings _, .strings _, henv, by simp⟩
  | some dir =>
    refine .table (by simp) ?_
    simp only [List.cons_append, List.nil_append, List.forall_mem_cons]
    exact ⟨.str _, .strings _, .strings _, henv, .str _, by simp⟩

/-! The whole configuration -/

namespace Config

variable {c : Config}

theorem writable_toMembers (hhealth : Writable c.health.toToml) (hfailover : Writable c.failover.toToml)
    (hsupervisor : Writable c.supervisor.toToml) (hcapture : Writable c.capture.toToml)
    (hproxies : ∀ p ∈ c.proxies, Writable p.toToml) : Writable (.table c.toMembers) := by
  have hseeds : Writable (.arr (c.proxies.map ProxySeed.toToml)) := by
    by_cases hnone : c.proxies = []
    · rw [hnone]
      exact .inline (.arr (by simp))
    · refine .tables (by simpa using hnone) ?_ ?_
      · intro v hv
        obtain ⟨p, -, rfl⟩ := List.mem_map.mp hv
        exact ⟨_, rfl⟩
      · intro v hv
        obtain ⟨p, hp, rfl⟩ := List.mem_map.mp hv
        exact hproxies p hp
  obtain ⟨health, failover, supervisor, capture, statePath, proxies⟩ := c
  cases statePath with
  | none =>
    refine .table (by simp [toMembers]) ?_
    simp only [toMembers, List.append_nil, List.cons_append, List.nil_append, List.forall_mem_cons]
    exact ⟨hhealth, hfailover, hsupervisor, hcapture, hseeds, by simp⟩
  | some path =>
    refine .table (by simp [toMembers]) ?_
    simp only [toMembers, List.cons_append, List.nil_append, List.forall_mem_cons]
    exact ⟨hhealth, hfailover, hsupervisor, hcapture, .str _, hseeds, by simp⟩

theorem finish_seed (p : ProxySeed) : (toEntry p.toToml).finish = p.toToml := by
  obtain ⟨id, url, priority, enabled, name⟩ := p
  apply finish_flat
  cases name <;> simp

/-- What the document of a configuration is read as: what stands in lines of its own, and then the sections. -/
theorem finish_toMembers (c : Config) : finishMembers (entries c.toMembers) =
    (match c.statePath with | some p => [("state_path", .str p)] | none => []) ++
    (if c.proxies = [] then [("proxies", .arr [])] else []) ++
    [("health", c.health.toToml), ("failover", c.failover.toToml), ("supervisor", c.supervisor.toToml),
      ("capture", (toEntry c.capture.toToml).finish)] ++
    (if c.proxies = [] then [] else [("proxies", .arr (c.proxies.map ProxySeed.toToml))]) := by
  have hhealth : (toEntry c.health.toToml).finish = c.health.toToml := finish_flat (by simp)
  have hfailover : (toEntry c.failover.toToml).finish = c.failover.toToml := finish_flat (by simp)
  have hsupervisor : (toEntry c.supervisor.toToml).finish = c.supervisor.toToml := finish_flat (by simp)
  have hseeds : (toEntry (.arr (c.proxies.map ProxySeed.toToml))).finish = .arr (c.proxies.map ProxySeed.toToml) := by
    apply finish_arr
    intro v hv
    obtain ⟨p, -, rfl⟩ := List.mem_map.mp hv
    exact ⟨⟨_, rfl⟩, finish_seed p⟩
  have htables : c.health.toToml.isSection = true ∧ c.failover.toToml.isSection = true ∧
    c.supervisor.toToml.isSection = true ∧ c.capture.toToml.isSection = true := ⟨rfl, rfl, rfl, rfl⟩
  rw [finish_entries]
  by_cases hnone : c.proxies = []
  · cases hpath : c.statePath <;>
      simp [toMembers, htables, hnone, hpath, hhealth, hfailover, hsupervisor]
  · have hsection : (.arr (c.proxies.map ProxySeed.toToml) : Toml).isSection = true := by
      obtain ⟨p, ps, hps⟩ := List.exists_cons_of_ne_nil hnone
      rw [hps]
      rfl
    cases hpath : c.statePath <;>
      simp [toMembers, htables, hsection, hnone, hpath, hhealth, hfailover, hsupervisor, hseeds]

theorem ofMembers?_toMembers (hhealth : HealthConfig.ofToml? c.health.toToml = some c.health)
    (hfailover : FailoverConfig.ofToml? c.failover.toToml = some c.failover)
    (hsupervisor : SupervisorConfig.ofToml? c.supervisor.toToml = some c.supervisor)
    (hcapture : CaptureCommand.ofToml? (toEntry c.capture.toToml).finish = some c.capture)
    (hproxies : ∀ p ∈ c.proxies, ProxySeed.ofToml? p.toToml = some p) :
    ofMembers? (finishMembers (entries c.toMembers)) = some c := by
  have hseeds := list?_arr hproxies
  have hnone : list? ProxySeed.ofToml? (.arr []) = some [] := rfl
  rw [finish_toMembers]
  obtain ⟨health, failover, supervisor, capture, statePath, proxies⟩ := c
  dsimp only at *
  by_cases hempty : proxies = []
  · cases statePath <;>
      simp [ofMembers?, setting, settingOption, string?, hhealth, hfailover, hsupervisor, hcapture, hempty, hnone]
  · cases statePath <;>
      simp [ofMembers?, setting, settingOption, string?, hhealth, hfailover, hsupervisor, hcapture, hempty, hseeds]

/-- The settings that were checked are far within their bounds. -/
theorem bounded_of_checked {s : SupervisorConfig} (h : s.Checked) (hr : s.maxRetries ≤ maxU32) : s.Bounded := by
  have hday : maxSettingSeconds * 1000 ≤ maxU64 := by decide
  have hmax := h.maxDelay_le
  have hfirst := h.firstDelay_le
  have hstart := h.startTimeout_le
  have hgrace := h.stopGrace_le
  have hconfirm := h.startConfirm_lt
  constructor <;> omega

/-- A valid configuration is read back from its text as it was, and it is valid again. -/
theorem ofText_toText (hs : c.Storable) (h : c.validate = .ok ()) :
    ∃ loaded, ofText c.toText = .ok loaded ∧ loaded = c ∧ loaded.validate = .ok () := by
  have hchecked := checked_of_validate h
  have hday : maxSettingSeconds ≤ maxU64 := by decide
  have hinterval : c.health.intervalSeconds ≤ maxU64 := hchecked.health.interval_le.trans hday
  have htimeout : c.health.timeoutSeconds ≤ maxU64 := hchecked.health.timeout_lt.le.trans hinterval
  have hbounded := bounded_of_checked hchecked.supervisor hs.maxRetries_le
  have hwritable : Writable (.table c.toMembers) :=
    writable_toMembers (HealthConfig.writable hinterval htimeout) (FailoverConfig.writable hs.maxFailures_le)
      (SupervisorConfig.writable hbounded hs.factor_canonical) (CaptureCommand.writable hs.capture)
      fun p hp => ProxySeed.writable (hs.priority_le p hp)
  have hmembers : ofMembers? (finishMembers (entries c.toMembers)) = some c :=
    ofMembers?_toMembers (HealthConfig.ofToml?_toToml hinterval htimeout) (FailoverConfig.ofToml?_toToml hs.maxFailures_le)
      (SupervisorConfig.ofToml?_toToml hbounded) (CaptureCommand.ofToml?_toToml hs.capture)
      fun p hp => ProxySeed.ofToml?_toToml (hs.priority_le p hp)
  refine ⟨c, ?_, rfl, h⟩
  rw [ofText, toText, parse?_print hwritable, Option.bind_some, hmembers]

/-- A configuration with names and texts that must be escaped, a variable without a name, an endpoint without one and a
factor that is no decimal of few digits. -/
theorem ofText_toText_escaped :
    let c : Config :=
      { health := { probeUrl := "http://[::1]/" }
        supervisor := { factor := .finite false 4953959590107547 (-52) }
        capture :=
          { program := "a\"'''b\\", args := [], proxyEnv := ["\"\"\"\n", "'''\x00"]
            env := [("", "\n"), ("a.b", "\r\n"), ("\x7f", "\t#")], workingDir := some "[x]\n" }
        proxies := [{ id := "a=b", url := "socks5://[::1]:81" }, { id := "\"", url := "socks5://h", name := some "" }] }
    c.Storable ∧ c.validate = .ok () ∧
      ∃ loaded, ofText c.toText = .ok loaded ∧ loaded = c ∧ loaded.validate = .ok () := by
  intro c
  have hfactor : Binary64.IsPositive 4953959590107547 (-52) :=
    ⟨by norm_num, by norm_num, by decide, by decide, .inr (by norm_num)⟩
  have henv : c.capture.env.Pairwise (·.1 < ·.1) := by decide
  have hs : c.Storable := ⟨Nat.le_of_ble_eq_true rfl, Nat.le_of_ble_eq_true rfl, .inr hfactor, henv, by simp [c]⟩
  have hv : c.validate = .ok () := by decide +kernel
  exact ⟨hs, hv, ofText_toText hs hv⟩

end Config

end ProxyWatch
