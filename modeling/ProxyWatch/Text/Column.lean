/-!
Text in columns of a given width.
-/
namespace ProxyWatch.Column

inductive Alignment
  | left
  | right
  | center
  deriving DecidableEq, Repr

/-- The text with spaces up to `width` characters; an odd space goes behind a centred text. -/
def pad (a : Alignment) (width : Nat) (s : String) : String :=
  let room := width - s.length
  let before := match a with
    | .left => 0
    | .right => room
    | .center => room / 2
  String.ofList (List.replicate before ' ' ++ s.toList ++ List.replicate (room - before) ' ')

/-- The first `width` characters. -/
def cut (width : Nat) (s : String) : String := String.ofList (s.toList.take width)

end ProxyWatch.Column
