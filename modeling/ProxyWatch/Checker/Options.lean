import ProxyWatch.Duration

/-!
Timing and target of health checks.
-/
namespace ProxyWatch

/-- The options of health checks. -/
structure CheckOptions where
  /-- The time between cycles. -/
  interval : Duration := .ofSeconds 300
  /-- The bound for one probe. -/
  timeout : Duration := .ofSeconds 10
  /-- What is fetched through each proxy. -/
  probeUrl : String := "https://www.gstatic.com/generate_204"
  deriving DecidableEq, Repr, Inhabited

/-- The bound at which a probe that does not keep its own bound is given up; none if it is no span. -/
def CheckOptions.outerTimeout? (o : CheckOptions) : Option Duration := o.timeout.add? (.ofMillis 500)

end ProxyWatch
