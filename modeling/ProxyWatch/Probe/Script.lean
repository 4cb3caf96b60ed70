import ProxyWatch.Probe

/-!
The behaviour of proxies under probes: for each proxy url a queue of replies that are given in turn, and one
that is given whenever the queue is empty.
-/
namespace ProxyWatch

/-- One reply to a probe. -/
structure Reply where
  /-- Milliseconds until it comes; none if it never comes. -/
  delay : Option Nat := some 0
  result : ProbeResult
  deriving Inhabited

/-- A request through a proxy. -/
structure ProbeCall where
  proxy : String
  target : String
  timeout : Duration
  deriving DecidableEq, Repr, Inhabited

/-- The replies of one proxy. -/
structure ReplyScript where
  queue : List Reply := []
  /-- Given whenever the queue is empty. -/
  further : Option Reply := none
  deriving Inhabited

/-- Replies by proxy url. -/
structure Replies where
  scripts : List (String × ReplyScript) := []
  deriving Inhabited

namespace Replies

/-- What a proxy without a script replies. -/
def refusal : Reply := { result := .error (.connectionRefused "connection refused") }

/-- The script of a proxy. -/
def scriptOf (rs : Replies) (proxy : String) : ReplyScript := (rs.scripts.lookup proxy).getD {}

/-- Gives a proxy a script instead of the one it has. -/
def withScript (rs : Replies) (proxy : String) (script : ReplyScript) : Replies :=
  ⟨(proxy, script) :: rs.scripts.filter (·.1 != proxy)⟩

/-- The next reply of a proxy. -/
def next (rs : Replies) (proxy : String) : Reply × Replies :=
  let script := rs.scriptOf proxy
  match script.queue with
  | reply :: queue => (reply, rs.withScript proxy { script with queue })
  | [] => (script.further.getD refusal, rs)

/-- Lengthens a proxy's queue, and replaces what it replies further if something is given. -/
def extend (rs : Replies) (proxy : String) (more : ReplyScript) : Replies :=
  let script := rs.scriptOf proxy
  rs.withScript proxy
    { queue := script.queue ++ more.queue, further := more.further.or script.further }

end Replies
end ProxyWatch
