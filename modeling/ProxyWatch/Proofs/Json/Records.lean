import ProxyWatch.Capture.Json
import ProxyWatch.Proofs.Registry.StateFile
import ProxyWatch.Session.Record

/-! Records as JSON text. Whatever is stored or reported as a record is read back from its text as it was. -/
namespace ProxyWatch

/-! Fields -/

namespace Json

section
variable {α : Type} {names : List String} {ms : List (String × Json)} {name : String} {f : Fields}
  {w : α → Json} {read : Json → Option α} {o : Option α}

/-- An object with all fields of a record. -/
theorem fields?_obj (hn : ms.map Prod.fst = names) (hd : names.Nodup) : fields? names (obj ms) = some ⟨false, ms⟩ := by
  have hall : ms.filter (fun m => names.contains m.1) = ms := by
    rw [List.filter_eq_self]
    intro m hm
    simp only [List.contains_iff_mem, ← hn]
    exact List.mem_map_of_mem hm
  simp only [fields?, hall]
  rw [if_pos (hn ▸ hd)]

theorem optional_ofOption (hf : f.get? name = some (ofOption w o))
    (hw : ∀ a ∈ o, read (w a) = some a ∧ w a ≠ .null) : f.optional name read = some o := by
  cases o with
  | none => simp [Fields.optional, hf, ofOption]
  | some a =>
    obtain ⟨hr, hn⟩ := hw a rfl
    simp only [Fields.optional, hf, ofOption]
    simp [hr]

theorem int32?_int {i : Int} (hl : -(pow2 31 : Int) ≤ i) (hu : i < pow2 31) : int32? (.int i) = some i :=
  if_pos ⟨hl, hu⟩

end

end Json

/-! Variables -/

section
variable {v : String × String} {vs ws : List (String × String)}

theorem insertVariable_last (h : ∀ x ∈ vs, x.1 < v.1) : insertVariable v vs = vs ++ [v] := by
  induction vs with
  | nil => rfl
  | cons x xs ih =>
    have hx : x.1 < v.1 := h x (by simp)
    have hle : ¬ v.1 < x.1 := fun hv => String.lt_asymm hx hv
    have hne : v.1 ≠ x.1 := fun he => String.lt_irrefl _ (he ▸ hx)
    simp [insertVariable, hle, hne, ih fun y hy => h y (by simp [hy])]

/-- Variables in ascending order are their own list. -/
theorem variablesOf_eq (h : vs.Pairwise (·.1 < ·.1)) : variablesOf vs = vs := by
  have hfold : ∀ done, (done ++ vs).Pairwise (·.1 < ·.1) →
      vs.foldl (fun acc v => insertVariable v acc) done = done ++ vs := by
    clear h
    induction vs with
    | nil => simp
    | cons v vs ih =>
      intro done h
      have hlast : ∀ x ∈ done, x.1 < v.1 := fun x hx => (List.pairwise_append.mp h).2.2 x hx v (by simp)
      rw [List.foldl_cons, insertVariable_last hlast, ih _ (by simpa using h), List.append_assoc]
      rfl
  exact hfold [] h

end

/-! The types of records -/

/-- The counters are within their bounds and the time of the check is one. -/
structure ProbeOutcome.Storable (o : ProbeOutcome) : Prop where
  responseMs_le : o.responseMs ≤ maxU64
  httpStatus_le : ∀ n ∈ o.httpStatus, n ≤ maxU16
  checkedAt_valid : o.checkedAt.IsValid

/-- The attempts are within their bound and the times are such. -/
structure SessionRecord.Storable (s : SessionRecord) : Prop where
  attempt_le : s.attempt ≤ maxU32
  started_valid : s.started.IsValid
  changed_valid : s.changed.IsValid

/-- The exit code is a 32-bit integer. -/
def ExitReport.Storable (r : ExitReport) : Prop := ∀ code ∈ r.code, -(pow2 31 : Int) ≤ code ∧ code < pow2 31

/-- Each variable stands once and in its place. -/
def CaptureCommand.Storable (c : CaptureCommand) : Prop := c.env.Pairwise (·.1 < ·.1)

section
open Json

theorem ProbeLevel.ofJson?_toJson (l : ProbeLevel) : ofJson? l.toJson = some l := by
  cases l <;> rfl

theorem SessionState.ofJson?_toJson (s : SessionState) : ofJson? s.toJson = some s := by
  cases s <;> rfl

theorem Route.ofJson?_toJson (r : Route) : ofJson? r.toJson = some r := by
  cases r <;> simp [ofJson?, toJson, fields?, Fields.required, Fields.get?, choice?, ofParts?, string?]

theorem ProbeOutcome.ofJson?_toJson {o : ProbeOutcome} (h : o.Storable) : ofJson? o.toJson = some o := by
  have hfields : o.toJson.fields? ["level", "response_time_ms", "http_status", "error", "checked_at"] = some _ :=
    fields?_obj rfl (by decide)
  rw [ofJson?, hfields, Option.bind_eq_bind, Option.bind_some]
  generalize hf : Fields.mk false _ = f
  have hstatus : f.optional "http_status" (nat? maxU16) = some o.httpStatus :=
    optional_ofOption (w := .ofNat) (by simp [← hf, Fields.get?]) fun n hn =>
      ⟨nat?_ofNat (h.httpStatus_le n hn), by simp [ofNat]⟩
  have herror : f.optional "error" string? = some o.error :=
    optional_ofOption (w := .str) (by simp [← hf, Fields.get?]) fun s _ => ⟨rfl, by simp⟩
  rw [hstatus, herror]
  simp [← hf, Fields.required, Fields.get?, nat?_ofNat h.responseMs_le, ProbeLevel.ofJson?_toJson,
    Timestamp.ofJson?_toJson h.checkedAt_valid]

theorem SessionRecord.ofJson?_toJson {s : SessionRecord} (h : s.Storable) : ofJson? s.toJson = some s := by
  have hfields : s.toJson.fields? fieldNames = some _ := fields?_obj rfl (by decide)
  rw [ofJson?, hfields, Option.bind_eq_bind, Option.bind_some]
  generalize hf : Fields.mk false _ = f
  have hroute : f.optional "assigned_proxy" Route.ofJson? = some s.route :=
    optional_ofOption (w := Route.toJson) (by simp [← hf, Fields.get?]) fun r _ =>
      ⟨r.ofJson?_toJson, by cases r <;> simp [Route.toJson]⟩
  have herror : f.optional "last_error" string? = some s.error :=
    optional_ofOption (w := .str) (by simp [← hf, Fields.get?]) fun _ _ => ⟨rfl, by simp⟩
  rw [hroute, herror]
  simp [← hf, Fields.required, Fields.get?, nat?_ofNat h.attempt_le, SessionState.ofJson?_toJson, string?,
    Timestamp.ofJson?_toJson h.started_valid, Timestamp.ofJson?_toJson h.changed_valid]

theorem ExitReport.ofJson?_toJson {r : ExitReport} (h : r.Storable) : ofJson? r.toJson = some r := by
  have hfields : r.toJson.fields? ["code", "success"] = some _ := fields?_obj rfl (by decide)
  rw [ofJson?, hfields, Option.bind_eq_bind, Option.bind_some]
  generalize hf : Fields.mk false _ = f
  have hcode : f.optional "code" int32? = some r.code :=
    optional_ofOption (w := .int) (by simp [← hf, Fields.get?]) fun i hi =>
      ⟨int32?_int (h i hi).1 (h i hi).2, by simp⟩
  rw [hcode]
  simp [← hf, Fields.required, Fields.get?, bool?]

theorem CaptureCommand.ofJson?_toJson {c : CaptureCommand} (h : c.Storable) : ofJson? c.toJson = some c := by
  have hfields : c.toJson.fields? fieldNames = some _ := fields?_obj rfl (by decide)
  rw [ofJson?, hfields, Option.bind_eq_bind, Option.bind_some]
  generalize hf : Fields.mk false _ = f
  have hstrings : ∀ ss : List String, list? string? (.arr (ss.map .str)) = some ss := fun _ =>
    list?_arr fun _ _ => rfl
  have henv : variables? (.obj (c.env.map fun v => (v.1, .str v.2))) = some c.env := by
    rw [variables?, mapM_map_eq, Option.bind_eq_bind, Option.bind_some, variablesOf_eq h]
    · rfl
    · exact fun _ _ => rfl
  have hdir : f.nullable "working_dir" string? = some c.workingDir :=
    Fields.nullable_ofOption (w := .str) (by simp [← hf, Fields.get?]) fun _ _ => ⟨rfl, by simp⟩
  rw [hdir]
  simp [← hf, Fields.defaulted, Fields.get?, hstrings, henv, string?]

end

/-! All of them -/

/-- The types of what is stored or reported as JSON. -/
inductive RecordKind
  | endpoint
  | outcome
  | session
  | route
  | status
  | level
  | state
  | exit
  | command
  deriving DecidableEq, Repr

namespace RecordKind

/-- The values of a type. -/
abbrev Value : RecordKind → Type
  | endpoint => Endpoint
  | outcome => ProbeOutcome
  | session => SessionRecord
  | route => Route
  | status => HealthStatus
  | level => ProbeLevel
  | state => SessionState
  | exit => ExitReport
  | command => CaptureCommand

/-- The value is one that the program can hold: numbers fit their widths, times are such, and variables stand in their
places. -/
def Storable : (k : RecordKind) → k.Value → Prop
  | endpoint, e => Endpoint.Storable e
  | outcome, o => ProbeOutcome.Storable o
  | session, s => SessionRecord.Storable s
  | exit, r => ExitReport.Storable r
  | command, c => CaptureCommand.Storable c
  | route, _ | status, _ | level, _ | state, _ => True

def write : (k : RecordKind) → k.Value → Json
  | endpoint => Endpoint.toJson
  | outcome => ProbeOutcome.toJson
  | session => SessionRecord.toJson
  | route => Route.toJson
  | status => HealthStatus.toJson
  | level => ProbeLevel.toJson
  | state => SessionState.toJson
  | exit => ExitReport.toJson
  | command => CaptureCommand.toJson

def read : (k : RecordKind) → Json → Option k.Value
  | endpoint => Endpoint.ofJson?
  | outcome => ProbeOutcome.ofJson?
  | session => SessionRecord.ofJson?
  | route => Route.ofJson?
  | status => HealthStatus.ofJson?
  | level => ProbeLevel.ofJson?
  | state => SessionState.ofJson?
  | exit => ExitReport.ofJson?
  | command => CaptureCommand.ofJson?

/-- The text of a value, compact or over several lines. -/
def encode (k : RecordKind) (pretty : Bool) (v : k.Value) : String :=
  if pretty then (k.write v).pretty else (k.write v).compact

/-- The value in a text. -/
def decode (k : RecordKind) (text : String) : Option k.Value := (Json.parse? text.toList).bind k.read

variable {k : RecordKind} {v : k.Value}

theorem read_write (h : k.Storable v) : k.read (k.write v) = some v := by
  cases k with
  | endpoint => exact Endpoint.ofJson?_toJson h
  | outcome => exact ProbeOutcome.ofJson?_toJson h
  | session => exact SessionRecord.ofJson?_toJson h
  | route => exact Route.ofJson?_toJson v
  | status => exact HealthStatus.ofJson?_toJson v
  | level => exact ProbeLevel.ofJson?_toJson v
  | state => exact SessionState.ofJson?_toJson v
  | exit => exact ExitReport.ofJson?_toJson h
  | command => exact CaptureCommand.ofJson?_toJson h

/-- A value is read back from its text, compact or over several lines. -/
theorem decode_encode (h : k.Storable v) (pretty : Bool) : k.decode (k.encode pretty v) = some v := by
  have hparse : Json.parse? (k.encode pretty v).toList = some (k.write v) := by
    cases pretty <;> simp [encode, Json.compact, Json.pretty, Json.parse?_chars]
  rw [decode, hparse, Option.bind_some, read_write h]

/-- A session far in the past, with a leap second and an error that has to be escaped. -/
theorem decode_encode_escaped :
    let s : SessionRecord :=
      { target := "\u4e2d\"\\", route := some (.endpoint ""), state := .retrying, attempt := maxU32
        started := ⟨-262143, 1, 1, 23, 59, 60, 999999999⟩, changed := ⟨10000, 2, 29, 0, 0, 0, 1000⟩
        error := some "\x00\n\x7f" }
    s.Storable ∧ decode .session (encode .session true s) = some s := by
  intro s
  have h : s.Storable := ⟨by decide, by decide, by decide⟩
  exact ⟨h, decode_encode (k := .session) h true⟩

end RecordKind
end ProxyWatch
