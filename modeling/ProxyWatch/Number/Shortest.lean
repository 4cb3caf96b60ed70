import ProxyWatch.Number.Binary64
import ProxyWatch.Number.Power
import ProxyWatch.Text.Decimal

/-!
Decimal text of doubles: the fewest digits that read back to the same double, in positional form, and
the double that a decimal numeral denotes.
-/
namespace ProxyWatch.Binary64

/-- The double nearest to `± digits · 10 ^ exponent`. Exponents far outside the range of doubles are
decided by size alone. -/
def ofDecimal (negative : Bool) (digits : Nat) (exponent : Int) : Binary64 :=
  if digits = 0 then .finite negative 0 minExponent
  else
    let magnitude := exponent + (Decimal.digits digits).length
    if magnitude > 400 then .infinite negative
    else if magnitude < -400 then .finite negative 0 minExponent
    else match exponent with
      | .ofNat k => ofRatio negative (digits * pow10 k) 1
      | .negSucc k => ofRatio negative digits (pow10 (k + 1))

/-- A decimal `digits · 10 ^ exponent`. -/
structure Scaled where
  digits : Nat
  exponent : Int
  deriving DecidableEq, Repr

/-- The power of ten of the leading digit of `num / den`. -/
def leadingPower (num den : Nat) : Int :=
  if num ≥ den then ((Decimal.digits (num / den)).length : Int) - 1
  else -((Decimal.digits ((den - 1) / num)).length : Int)

/-- The decimal `d · 10 ^ k`, where `d` has `count` digits or is the next power of ten. -/
def Scaled.ofGrid (count d : Nat) (k : Int) : Scaled :=
  if d = pow10 count then ⟨1, k + count⟩ else ⟨d, k⟩

/-- The multiple of `10 ^ k` at or below `num / den`, and whether the one above is nearer or as near. -/
def gridBelow (num den : Nat) (k : Int) : Nat × Bool :=
  let (n, d) := match k with
    | .ofNat k => (num, den * pow10 k)
    | .negSucc k => (num * pow10 (k + 1), den)
  (n / d, 2 * (n % d) ≥ d)

/-- The decimal with `count` digits that reads back to `x` and lies nearest to `num / den`, if any. -/
def withDigits? (x : Binary64) (num den count : Nat) : Option Scaled :=
  let k := leadingPower num den - (count - 1)
  let (low, upNearer) := gridBelow num den k
  let readsBack (d : Nat) : Bool := decide (ofDecimal false d k = x)
  let (first, second) := if upNearer then (low + 1, low) else (low, low + 1)
  if readsBack first then some (.ofGrid count first k)
  else if readsBack second then some (.ofGrid count second k)
  else none

/-- Tries growing digit counts from `count` on. -/
def shortestFrom (x : Binary64) (num den : Nat) : Nat → Nat → Scaled
  | 0, count => ⟨(gridBelow num den (leadingPower num den - count)).1, leadingPower num den - count⟩
  | fuel + 1, count =>
    (withDigits? x num den count).getD (shortestFrom x num den fuel (count + 1))

/-- The shortest decimal of the positive finite double `m · 2 ^ e`. Seventeen digits always suffice. -/
def shortest (m : Nat) (e : Int) : Scaled :=
  let (num, den) := match e with
    | .ofNat k => (m * pow2 k, 1)
    | .negSucc k => (m, pow2 (k + 1))
  shortestFrom (.finite false m e) num den 17 1

/-- A decimal in positional form, always with a point: zeros fill up the places not given. -/
def Scaled.positional (s : Scaled) : List Char :=
  let ds := Decimal.digits s.digits
  match s.exponent with
  | .ofNat k => ds ++ List.replicate k '0' ++ ['.', '0']
  | .negSucc k =>
    let places := k + 1
    if ds.length > places then
      ds.take (ds.length - places) ++ '.' :: ds.drop (ds.length - places)
    else '0' :: '.' :: List.replicate (places - ds.length) '0' ++ ds

/-- The shortest positional text: always with a point and a digit on each side of it. -/
def text : Binary64 → List Char
  | nan => "nan".toList
  | infinite s => (if s then "-inf" else "inf").toList
  | finite s m e =>
    (if s then ['-'] else []) ++
      if m = 0 then "0.0".toList else (shortest m e).positional

end ProxyWatch.Binary64
