import ProxyWatch.Selection.Text
import ProxyWatch.Service
import ProxyWatch.Text.Column

/-!
The report on one health cycle: a table of the endpoints, and what came out.
-/
namespace ProxyWatch.CommandLine

/-- A line of the table. -/
def tableLine (id status enabled average failures url : String) : String :=
  Column.pad .left 16 id ++ " " ++ Column.pad .left 9 status ++ " " ++ Column.pad .right 8 enabled ++ " " ++
    Column.pad .right 9 average ++ " " ++ Column.pad .right 6 failures ++ "  " ++ url

def endpointLine (e : Endpoint) : String :=
  tableLine e.id e.status.word (if e.enabled then "true" else "false")
    ((e.averageMs.map Decimal.text).getD "-") (Decimal.text e.failures) e.shownUrl

/-- The lines of the report on a round that took some milliseconds. -/
def reportLines (s : Service) (r : Round) (ms : Nat) : List String :=
  [tableLine "ID" "STATUS" "ENABLED" "AVG_MS" "FAILS" "URL"] ++
    (s.list false).map endpointLine ++
    (if r.autoDisabled.isEmpty then [] else ["Auto-disabled: " ++ ", ".intercalate r.autoDisabled]) ++
    ["Selected: " ++ (match s.select with
        | .ok c => c.describe
        | .error e => "none (" ++ e.message ++ ")"),
      "Probed " ++ Decimal.text r.checks.length ++ " endpoint(s) in " ++ Decimal.text ms ++ " ms"]

end ProxyWatch.CommandLine
