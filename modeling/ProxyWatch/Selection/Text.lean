import ProxyWatch.Redaction.Url
import ProxyWatch.Selection

/-!
The text that tells people which route was chosen.
-/
namespace ProxyWatch

/-- The choice, with the endpoint's url fit to be shown. -/
def Choice.describe : Choice → String
  | .endpoint e => e.id ++ " (" ++ e.shownUrl ++ ")"
  | .direct => "direct connection"

end ProxyWatch
