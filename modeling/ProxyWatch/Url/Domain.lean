import ProxyWatch.Text.Canonical
import ProxyWatch.Text.Direction
import ProxyWatch.Text.Folding
import ProxyWatch.Text.Joining
import ProxyWatch.Text.Mark
import ProxyWatch.Text.Printable
import ProxyWatch.Url.Punycode

/-!
Domain names in their ASCII form: names are folded and composed, and a label with other characters is
written as `xn--` and its punycode.
-/
namespace ProxyWatch.Domain

/-- An ASCII character that no domain name may hold. -/
def isForbidden (c : Char) : Bool :=
  c.toNat ≤ 0x20 || c.toNat = 0x7F || "#%/:<>?@[\\]^|".toList.contains c

/-- Visible characters that no name may hold: those whose plain form would hold a full stop, and those that
describe or stand for another character. -/
def unfitLines : List String :=
  ["2024-2026 2488-249b 2ff0-2fff 31ef 33c2 33c7 33d8 fe12 fe19 fe30 fe52 fffc-fffd 1f100"]

def unfit : List CodeRange := CodeRange.parseList unfitLines

/-- A character that a folded label may hold, apart from the joiners. -/
def isValid (c : Char) : Bool :=
  if c.toNat < 0x80 then !isForbidden c
  else Printable.isGraphic c && !unfit.any (·.contains c.toNat)

/-- Every character is valid in its place. The text in front is given backwards. -/
def allValid (before : List Char) : List Char → Bool
  | [] => true
  | c :: cs =>
    (if Joining.isJoiner c then Joining.mayStand c before cs else isValid c) && allValid (c :: before) cs

/-- A label may start with anything but a mark. -/
def isValidLabel (label : List Char) : Bool :=
  allValid [] label && !((label.head?.map Mark.isMark).getD false)

/-- The form in which names are compared. -/
def normalize (name : List Char) : List Char := Canonical.compose (Folding.fold name)

/-- What starts a label in punycode. -/
def punycodeMark : List Char := "xn--".toList

def isAscii (cs : List Char) : Bool := cs.all (·.toNat < 128)

/-- What a label in punycode stands for must need punycode, be normalized and be valid. -/
def isValidUnicode (label : List Char) : Bool :=
  !isAscii label && normalize label == label && isValidLabel label

/-- The characters that a normalized label stands for. -/
def labelToUnicode? (label : List Char) : Option (List Char) :=
  if punycodeMark.isPrefixOf label then
    (Punycode.decode? (label.drop punycodeMark.length)).filter isValidUnicode
  else if isValidLabel label then some label
  else none

/-- The ASCII form of a label. -/
def labelToAscii (label : List Char) : List Char :=
  if isAscii label then label else punycodeMark ++ Punycode.encode label

/-- If one label is written from right to left, all labels must keep their order beside it. -/
def isOrderly (labels : List (List Char)) : Bool :=
  let directions := labels.map (·.map Direction.ofChar)
  !directions.any Direction.hasRightToLeft || directions.all Direction.isStable

/-- The ASCII form of a domain name. -/
def toAscii? (name : List Char) : Option (List Char) := do
  let labels ← ((normalize name).splitOn '.').mapM labelToUnicode?
  if isOrderly labels then some (['.'].intercalate (labels.map labelToAscii)) else none

end ProxyWatch.Domain
