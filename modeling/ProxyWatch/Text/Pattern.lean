/-!
Patterns in a text. The text is gone through from left to right: wherever a pattern matches, its match is
replaced, and the search goes on behind it.
-/
namespace ProxyWatch

/-- A pattern: for a text that starts with a match, the replacement and the text behind the match. -/
abbrev Pattern := List Char → Option (List Char × List Char)

namespace Pattern

/-- Replaces every match, the leftmost first. An empty match counts as none. -/
def replaceAll (p : Pattern) (cs : List Char) : List Char :=
  match cs with
  | [] => []
  | c :: r =>
    match p (c :: r) with
    | some (out, rest) =>
      if rest.length ≤ r.length then out ++ replaceAll p rest else c :: replaceAll p r
    | none => c :: replaceAll p r
termination_by cs.length
decreasing_by all_goals simp_wf; all_goals omega

/-- A fixed text with a replacement. -/
def literal (word replacement : List Char) : Pattern := fun cs =>
  if word.isPrefixOf cs then some (replacement, cs.drop word.length) else none

end Pattern

/-- The text holds the given word. -/
def containsWord (word : List Char) : List Char → Bool
  | [] => word.isEmpty
  | c :: r => word.isPrefixOf (c :: r) || containsWord word r

end ProxyWatch
