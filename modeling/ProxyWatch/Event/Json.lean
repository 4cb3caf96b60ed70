import ProxyWatch.Endpoint.Json

/-!
Events as JSON records, each with its kind in the member `type`.
-/
namespace ProxyWatch.Event

/-- The members of an event but the time. -/
def members : Event → List (String × Json)
  | healthChanged id previous current failures responseMs =>
    [("endpoint_id", .str id), ("previous", previous.toJson), ("current", current.toJson),
      ("consecutive_failures", .ofNat failures), ("response_time_ms", .ofOption .ofNat responseMs)]
  | autoDisabled id failures =>
    [("endpoint_id", .str id), ("consecutive_failures", .ofNat failures)]
  | sessionChanged target previous current attempt route error =>
    [("target_id", .str target), ("previous", .ofOption SessionState.toJson previous),
      ("current", current.toJson), ("attempt", .ofNat attempt),
      ("assigned_proxy", .ofOption Route.toJson route), ("error", .ofOption .str error)]

/-- The record of an event that was published at the given time. -/
def toJson (e : Event) (published : Timestamp) : Json :=
  .obj (("type", .str e.kind) :: e.members ++ [("at", published.toJson)])

end ProxyWatch.Event
