import ProxyWatch.Text.Pattern

/-!
The template of a capture command and its arguments for one attempt.
-/
namespace ProxyWatch

/-- A capture program with its argument template and environment. -/
structure CaptureCommand where
  program : String := "streamlink"
  args : List String :=
    ["--http-proxy", "\x7bproxy\x7d", "--output", "\x7btarget\x7d.ts", "\x7btarget\x7d", "best"]
  proxyEnv : List String := []
  /-- Variables by name, each once, in ascending order. -/
  env : List (String × String) := []
  workingDir : Option String := none
  deriving DecidableEq, Repr, Inhabited

namespace CaptureCommand

/-- Stands for the id of the target. -/
def targetMark : List Char := "\x7btarget\x7d".toList

/-- Stands for the url of the proxy. -/
def proxyMark : List Char := "\x7bproxy\x7d".toList

/-- The text with every `mark` replaced by `value`. -/
def substitute (mark value cs : List Char) : List Char := (Pattern.literal mark value).replaceAll cs

/-- Extends the arguments rendered so far by one template argument. Without a proxy an argument that
mentions it is left out, together with a preceding one that looks like its option. -/
def renderOne (target : List Char) (proxy : Option (List Char)) (done : List (List Char))
    (arg : List Char) : List (List Char) :=
  if containsWord proxyMark arg then
    match proxy with
    | some url => done ++ [substitute targetMark target (substitute proxyMark url arg)]
    | none =>
      match done.getLast? with
      | some ('-' :: _) => done.dropLast
      | _ => done
  else done ++ [substitute targetMark target arg]

/-- The arguments for one attempt, with a proxy or with a direct connection. -/
def render (c : CaptureCommand) (target : String) (proxy : Option String) : List String :=
  ((c.args.map String.toList).foldl (renderOne target.toList (proxy.map String.toList)) []).map
    String.ofList

end CaptureCommand
end ProxyWatch
