import ProxyWatch.Endpoint.Json

/-!
The record of a capture session at one point in time, as it is reported and stored.
-/
namespace ProxyWatch

/-- A capture session as last reported. -/
structure SessionRecord where
  target : String
  route : Option Route := none
  state : SessionState := .starting
  /-- How often a start was attempted. -/
  attempt : Nat := 0
  started : Timestamp
  changed : Timestamp
  /-- The latest failure of an attempt; a confirmed start clears it. -/
  error : Option String := none
  deriving DecidableEq, Repr, Inhabited

namespace SessionRecord

/-- The record of a session that has not begun. -/
def fresh (target : String) (now : Timestamp) : SessionRecord :=
  { target, started := now, changed := now }

/-- The final state as a waiting caller sees it in a record; a session that broke off counts as failed. -/
def outcome? (r : SessionRecord) (vanished : Bool) : Option SessionState :=
  if r.state.isTerminal then some r.state
  else if vanished then some .failed
  else none

/-- The names of the stored fields, in order. -/
def fieldNames : List String :=
  ["target_id", "assigned_proxy", "state", "attempt", "started_at", "last_transition_at",
    "last_error"]

def toJson (s : SessionRecord) : Json :=
  .obj [("target_id", .str s.target), ("assigned_proxy", .ofOption Route.toJson s.route),
    ("state", s.state.toJson), ("attempt", .ofNat s.attempt), ("started_at", s.started.toJson),
    ("last_transition_at", s.changed.toJson), ("last_error", .ofOption .str s.error)]

def ofJson? (j : Json) : Option SessionRecord := do
  let f ← j.fields? fieldNames
  return {
    target := ← f.required "target_id" Json.string?
    route := ← f.optional "assigned_proxy" Route.ofJson?
    state := ← f.required "state" SessionState.ofJson?
    attempt := ← f.required "attempt" (Json.nat? maxU32)
    started := ← f.required "started_at" Timestamp.ofJson?
    changed := ← f.required "last_transition_at" Timestamp.ofJson?
    error := ← f.optional "last_error" Json.string? }

end SessionRecord
end ProxyWatch
