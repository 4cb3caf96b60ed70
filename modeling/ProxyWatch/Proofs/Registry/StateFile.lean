import ProxyWatch.Proofs.FileTree
import ProxyWatch.Proofs.Json.RoundTrip
import ProxyWatch.Proofs.Registry.Lookup
import ProxyWatch.Proofs.Timestamp

/-! State files. What was saved is loaded again, field for field, and a save that fails leaves the file alone. -/
namespace ProxyWatch

/-! Records -/

/-- The counters are within their bounds and the time of the last check is one. -/
structure Endpoint.Storable (e : Endpoint) : Prop where
  priority_le : e.priority ≤ maxU32
  failures_le : e.failures ≤ maxU32
  averageMs_le : ∀ n ∈ e.averageMs, n ≤ maxU64
  lastChecked_valid : ∀ t ∈ e.lastChecked, t.IsValid

/-- What is read element by element as it was written is read as a whole. -/
theorem mapM_map_eq {α β : Type} {write : α → β} {read : β → Option α} {as : List α}
    (h : ∀ a ∈ as, read (write a) = some a) : (as.map write).mapM read = some as := by
  induction as with
  | nil => rfl
  | cons a as ih =>
    have hrest := ih fun x hx => h x (by simp [hx])
    simp [List.mapM_cons, h a (by simp), hrest]

namespace Json

theorem list?_arr {α : Type} {write : α → Json} {read : Json → Option α} {as : List α}
    (h : ∀ a ∈ as, read (write a) = some a) : list? read (.arr (as.map write)) = some as := mapM_map_eq h

theorem nat?_ofNat {limit n : Nat} (h : n ≤ limit) : nat? limit (ofNat n) = some n := by
  simp [nat?, ofNat, h]

theorem le_of_nat? {limit n : Nat} {j : Json} (h : nat? limit j = some n) : n ≤ limit := by
  cases j with
  | int i =>
    simp only [nat?, Option.ite_none_right_eq_some] at h
    obtain ⟨hi, hn⟩ := h
    cases hn
    omega
  | _ => simp [nat?] at h

namespace Fields

variable {α : Type} {f : Fields} {name : String} {read : Json → Option α}

theorem exists_of_required {a : α} (h : f.required name read = some a) : ∃ j, read j = some a := by
  obtain ⟨j, _, hj⟩ := Option.bind_eq_some_iff.mp h
  exact ⟨j, hj⟩

theorem exists_of_defaulted {a d : α} (h : f.defaulted name d read = some a) : a = d ∨ ∃ j, read j = some a := by
  unfold defaulted at h
  split at h
  · exact .inr ⟨_, h⟩
  · exact .inl (Option.some.inj h).symm

theorem exists_of_nullable {a : α} (h : f.nullable name read = some (some a)) : ∃ j, read j = some a := by
  unfold nullable at h
  split at h
  · cases h
  · obtain ⟨x, hx, he⟩ := Option.map_eq_some_iff.mp h
    exact ⟨_, Option.some.inj he ▸ hx⟩
  · cases h

/-- An optional value is read as it was written, if no value is written like none. -/
theorem nullable_ofOption {w : α → Json} {o : Option α} (hf : f.get? name = some (ofOption w o))
    (hw : ∀ a ∈ o, read (w a) = some a ∧ w a ≠ .null) : f.nullable name read = some o := by
  cases o with
  | none => simp [nullable, hf, ofOption]
  | some a =>
    obtain ⟨hr, hn⟩ := hw a rfl
    simp only [nullable, hf, ofOption]
    simp [hr]

end Fields
end Json

theorem Timestamp.ofJson?_toJson {t : Timestamp} (h : t.IsValid) : ofJson? t.toJson = some t := by
  simp only [ofJson?, toJson, text, String.toList_ofList, parse?_chars h]

theorem Timestamp.isValid_of_ofJson? {j : Json} {t : Timestamp} (h : ofJson? j = some t) : t.IsValid := by
  cases j with
  | str s => exact isValid_of_parse? h
  | _ => simp [ofJson?] at h

theorem HealthStatus.ofJson?_toJson (s : HealthStatus) : ofJson? s.toJson = some s := by
  cases s <;> rfl

namespace Endpoint

open Json

variable {e : Endpoint}

/-- The members of a record behind the name. -/
def laterMembers (e : Endpoint) : List (String × Json) :=
  [("url", .str e.url), ("priority", .ofNat e.priority), ("enabled", .bool e.enabled),
    ("health_status", e.status.toJson), ("consecutive_failures", .ofNat e.failures),
    ("last_checked_at", .ofOption Timestamp.toJson e.lastChecked),
    ("average_response_time_ms", .ofOption .ofNat e.averageMs)]

def members (e : Endpoint) : List (String × Json) :=
  ("id", .str e.id) :: (match e.name with | some n => [("name", .str n)] | none => []) ++ e.laterMembers

theorem fields?_toJson : e.toJson.fields? fieldNames = some ⟨false, e.members⟩ := by
  cases hn : e.name <;> simp [toJson, fields?, members, laterMembers, fieldNames, hn]

theorem get?_members {name : String} (hi : name ≠ "id") (hn : name ≠ "name") :
    (Fields.mk false e.members).get? name = (Fields.mk false e.laterMembers).get? name := by
  cases he : e.name <;> simp [Fields.get?, members, he, Ne.symm hi, Ne.symm hn]

/-- A record is read as it was written. -/
theorem ofJson?_toJson (h : e.Storable) : ofJson? e.toJson = some e := by
  have hname : (Fields.mk false e.members).nullable "name" string? = some e.name := by
    cases hn : e.name <;> simp [Fields.nullable, Fields.get?, members, laterMembers, hn, string?]
  have hlast : (Fields.mk false e.members).nullable "last_checked_at" Timestamp.ofJson? = some e.lastChecked :=
    Fields.nullable_ofOption (get?_members (by decide) (by decide)) fun t ht =>
      ⟨Timestamp.ofJson?_toJson (h.lastChecked_valid t ht), by simp [Timestamp.toJson]⟩
  have haverage : (Fields.mk false e.members).nullable "average_response_time_ms" (nat? maxU64) = some e.averageMs :=
    Fields.nullable_ofOption (get?_members (by decide) (by decide)) fun n hn =>
      ⟨nat?_ofNat (h.averageMs_le n hn), by simp [ofNat]⟩
  have hlater : ∀ name ∈ ["url", "priority", "enabled", "health_status", "consecutive_failures"],
      (Fields.mk false e.members).get? name = (Fields.mk false e.laterMembers).get? name := by
    intro name hm
    refine get?_members ?_ ?_ <;> rintro rfl <;> simp at hm
  rw [ofJson?, fields?_toJson]
  simp only [Option.bind_eq_bind, Option.bind_some, hname, hlast, haverage, Fields.required, Fields.defaulted]
  simp only [hlater "url" (by simp), hlater "priority" (by simp), hlater "enabled" (by simp),
    hlater "health_status" (by simp), hlater "consecutive_failures" (by simp)]
  simp [Fields.get?, members, laterMembers, string?, bool?, nat?_ofNat h.priority_le, nat?_ofNat h.failures_le,
    HealthStatus.ofJson?_toJson]

/-- What is read can be stored. -/
theorem storable_of_ofJson? {j : Json} (h : ofJson? j = some e) : e.Storable := by
  simp only [ofJson?, Option.bind_eq_bind, Option.bind_eq_some_iff] at h
  obtain ⟨f, -, id, -, name, -, url, -, priority, hp, enabled, -, status, -, failures, hf, last, hl, average, ha, he⟩ := h
  cases he
  constructor
  case priority_le =>
    obtain ⟨j, hj⟩ := Fields.exists_of_required hp
    exact le_of_nat? hj
  case failures_le =>
    rcases Fields.exists_of_defaulted hf with rfl | ⟨j, hj⟩
    · exact Nat.zero_le _
    · exact le_of_nat? hj
  case averageMs_le =>
    rintro n rfl
    obtain ⟨j, hj⟩ := Fields.exists_of_nullable ha
    exact le_of_nat? hj
  case lastChecked_valid =>
    rintro t rfl
    obtain ⟨j, hj⟩ := Fields.exists_of_nullable hl
    exact Timestamp.isValid_of_ofJson? hj

end Endpoint

/-! Documents -/

namespace StateFile

open Json

variable {t t' : FileTree} {path : String} {now : Timestamp} {es : List Endpoint}

theorem ofJson?_document (hn : now.IsValid) (h : ∀ e ∈ es, e.Storable) :
    ofJson? (document now es) = some (version, es) := by
  have hes : list? Endpoint.ofJson? (.arr (es.map Endpoint.toJson)) = some es :=
    list?_arr fun e he => Endpoint.ofJson?_toJson (h e he)
  simp [ofJson?, document, fields?, Fields.required, Fields.get?, hes, Timestamp.ofJson?_toJson hn,
    nat?_ofNat (show version ≤ maxU32 by decide)]

/-- A document is read as it was written. -/
theorem decode_document (hn : now.IsValid) (h : ∀ e ∈ es, e.Storable) :
    decode (document now es).pretty = .ok es := by
  rw [decode, pretty, String.toList_ofList, parse?_chars, Option.bind_some, ofJson?_document hn h]
  rfl

theorem forall_of_mapM {read : Json → Option Endpoint} (hr : ∀ j e, read j = some e → e.Storable) {js : List Json}
    (h : js.mapM read = some es) : ∀ e ∈ es, e.Storable := by
  induction js generalizing es with
  | nil =>
    cases h
    simp
  | cons j js ih =>
    rw [List.mapM_cons] at h
    obtain ⟨e, he, h⟩ := Option.bind_eq_some_iff.mp h
    obtain ⟨es', hes, h⟩ := Option.bind_eq_some_iff.mp h
    cases h
    intro x hx
    rcases List.mem_cons.mp hx with rfl | hx
    · exact hr j x he
    · exact ih hes x hx

/-- What is loaded can be saved again. -/
theorem storable_of_decode {text : String} (h : decode text = .ok es) : ∀ e ∈ es, e.Storable := by
  unfold decode at h
  split at h
  · cases h
  · rename_i v es' hd
    split at h
    · cases h
    · cases h
      obtain ⟨j, -, hj⟩ := Option.bind_eq_some_iff.mp hd
      simp only [ofJson?, Option.bind_eq_bind, Option.bind_eq_some_iff] at hj
      obtain ⟨f, -, _, -, _, -, es', hes, he⟩ := hj
      cases he
      obtain ⟨j', hj'⟩ := Fields.exists_of_required hes
      cases j' with
      | arr js => exact forall_of_mapM (fun _ _ => Endpoint.storable_of_ofJson?) hj'
      | _ => simp [list?] at hj'

/-! Loading and saving -/

theorem load_of_stat (hs : t.stat path = .ok (.file (content now es))) (hn : now.IsValid)
    (h : ∀ e ∈ es, e.Storable) : load t path = .ok es := by
  have hutf : String.fromUTF8? (content now es) = some (document now es).pretty := by
    simp only [String.fromUTF8?, content, String.toUTF8]
    exact dif_pos (document now es).pretty.isValidUTF8
  have hread : t.readText path = .ok (document now es).pretty := by
    simp only [FileTree.readText, FileTree.read, hs, bind, Except.bind, hutf]
  rw [load, if_pos (FileTree.pathExists_iff.mpr ⟨_, hs⟩), hread]
  exact decode_document hn h

theorem load_of_absent (h : ∀ n, t.stat path ≠ .ok n) : load t path = .ok [] := by
  have he : t.pathExists path ≠ true := fun he => by
    obtain ⟨n, hn⟩ := FileTree.pathExists_iff.mp he
    exact h n hn
  rw [load, if_neg he]

/-- Loading hangs on what the path names. -/
theorem load_of_stat_eq {n : Node} (h : t.stat path = .ok n) (h' : t'.stat path = .ok n) :
    load t' path = load t path := by
  rw [load, load, if_pos (FileTree.pathExists_iff.mpr ⟨n, h⟩), if_pos (FileTree.pathExists_iff.mpr ⟨n, h'⟩)]
  simp only [FileTree.readText, FileTree.read, h, h']

theorem load_congr (h : ∀ n, t'.stat path = .ok n ↔ t.stat path = .ok n) : load t' path = load t path := by
  cases hs : t.stat path with
  | ok n => exact load_of_stat_eq hs ((h n).mpr hs)
  | error e =>
    rw [load_of_absent fun n hn => ?_, load_of_absent fun n hn => ?_]
    · rw [hs] at hn
      cases hn
    · rw [(h n).mp hn] at hs
      cases hs

/-- What is loaded can be saved again. -/
theorem storable_of_load (h : load t path = .ok es) : ∀ e ∈ es, e.Storable := by
  unfold load at h
  split at h
  · split at h
    · cases h
    · exact storable_of_decode h
  · cases h
    simp

/-- The system may refuse a step of a save, unless it is to move a file to where it is. -/
def SaveStep.Refusable (t : FileTree) : SaveStep → Prop
  | rename old new => t.resolve new ≠ t.resolve old
  | _ => True

/-- How a save can come out, whether or not it succeeds: the system may refuse any of its steps. -/
inductive Saving (t : FileTree) (path : String) (now : Timestamp) (es : List Endpoint) : FileTree → Bool → Prop
  | whole {t' : FileTree} (h : save t path now es = (t', .ok ())) : Saving t path now es t' true
  | failed {t' : FileTree} {e : RegistryError} (h : save t path now es = (t', .error e)) :
      Saving t path now es t' false
  | refused {before after : List SaveStep} {s : SaveStep} {t' : FileTree}
      (hs : saveSteps path now es = before ++ s :: after) (h : runSteps t before = (t', .ok ()))
      (hr : s.Refusable t') : Saving t path now es t' false

/-- The directories that a save makes first. -/
def dirSteps (path : String) : List SaveStep :=
  match PathText.parent? path with
  | some dir => [.makeDirs dir]
  | none => []

theorem runSteps_append {a b : List SaveStep} {r : Except RegistryError Unit} (h : runSteps t (a ++ b) = (t', r)) :
    (∃ e, runSteps t a = (t', .error e) ∧ r = .error e) ∨
    ∃ t₁, runSteps t a = (t₁, .ok ()) ∧ runSteps t₁ b = (t', r) := by
  induction a generalizing t with
  | nil => exact .inr ⟨t, rfl, h⟩
  | cons s a ih =>
    rw [List.cons_append, runSteps] at h
    rw [runSteps]
    split at h
    · exact ih h
    · obtain ⟨rfl, rfl⟩ := Prod.mk.inj h
      exact .inl ⟨_, rfl, rfl⟩

theorem dirSteps_adds {r : Except RegistryError Unit} (h : runSteps t (dirSteps path) = (t', r)) : t.AddsDirs t' := by
  unfold dirSteps at h
  split at h
  · rw [runSteps] at h
    split at h
    · rename_i hs
      cases h
      exact FileTree.makeDirs_adds hs
    · cases h
      exact .refl t
  · cases h
    exact .refl t

theorem runSteps_cons_ok {s : SaveStep} {rest : List SaveStep} (h : runSteps t (s :: rest) = (t', .ok ())) :
    ∃ t₁, s.run t = .ok t₁ ∧ runSteps t₁ rest = (t', .ok ()) := by
  rw [runSteps] at h
  split at h
  · exact ⟨_, by assumption, h⟩
  · cases h

/-- A save that succeeds leaves the document in the state file. -/
theorem stat_of_save (h : save t path now es = (t', .ok ())) : t'.stat path = .ok (.file (content now es)) := by
  obtain ⟨e, -, he⟩ | ⟨t₁, -, h⟩ := runSteps_append (a := dirSteps path) h
  · cases he
  · obtain ⟨t₂, hw, h⟩ := runSteps_cons_ok h
    obtain ⟨t₃, hm, h⟩ := runSteps_cons_ok h
    cases h
    exact FileTree.stat_rename hm (FileTree.stat_write hw)

/-- A save that fails leaves the state file alone. -/
theorem spares_of_failed {e : RegistryError} (h : save t path now es = (t', .error e)) : t.Spares path t' := by
  obtain ⟨_, h, -⟩ | ⟨t₁, hd, h⟩ := runSteps_append (a := dirSteps path) h
  · exact (dirSteps_adds h).spares path
  · have ha := dirSteps_adds hd
    rw [runSteps] at h
    split at h
    · rename_i t₂ hw
      rw [runSteps] at h
      split at h
      · cases h
      · rename_i hm
        cases h
        exact FileTree.write_spares ha hw (FileTree.resolve_ne_of_rename_error hm (FileTree.stat_write hw))
    · cases h
      exact ha.spares path

/-- So does one that is broken off. -/
theorem spares_of_refused {before after : List SaveStep} {s : SaveStep}
    (hs : saveSteps path now es = before ++ s :: after) (h : runSteps t before = (t', .ok ()))
    (hr : s.Refusable t') : t.Spares path t' := by
  obtain ⟨a, rfl, ha⟩ | ⟨c, hd, -⟩ := List.append_eq_append_iff.mp (show dirSteps path ++ _ = _ from hs)
  · obtain ⟨_, -, he⟩ | ⟨t₁, hd, h⟩ := runSteps_append h
    · cases he
    match a with
    | [] =>
      cases h
      exact (dirSteps_adds hd).spares path
    | [w] =>
      obtain ⟨rfl, rfl, -⟩ : .write (temporary path) (content now es) = w ∧
        .rename (temporary path) path = s ∧ [] = after := by simpa using ha
      obtain ⟨t₂, hw, h⟩ := runSteps_cons_ok h
      cases h
      exact FileTree.write_spares (dirSteps_adds hd) hw hr
    | _ :: _ :: _ => simp at ha
  · -- There is one directory step at most.
    have hbefore : before = [] ∨ before = dirSteps path := by
      unfold dirSteps at hd ⊢
      cases before with
      | nil => exact .inl rfl
      | cons b before =>
        split at hd
        · obtain ⟨rfl, hn⟩ := List.cons.inj hd
          have hb := List.append_eq_nil_iff.mp hn.symm
          simp [hb.1]
        · simp at hd
    rcases hbefore with rfl | rfl
    · cases h
      exact (FileTree.AddsDirs.refl t).spares path
    · exact (dirSteps_adds h).spares path

theorem Saving.spares (h : Saving t path now es t' false) : t.Spares path t' := by
  cases h with
  | failed h => exact spares_of_failed h
  | refused hs h hr => exact spares_of_refused hs h hr

end StateFile
end ProxyWatch
