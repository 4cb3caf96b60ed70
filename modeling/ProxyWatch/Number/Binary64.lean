import ProxyWatch.Number.Power

/-!
Double-precision numbers in exact arithmetic. A finite double is `± mantissa · 2 ^ exponent`; every
operation computes the exact result as a ratio of natural numbers and rounds it once, to the nearest
double, a tie going to the even mantissa.
-/
namespace ProxyWatch

/-- A double. Finite ones are canonical: the exponent is at least -1074, the mantissa is below 2^53,
and it is at least 2^52 unless the exponent is -1074. -/
inductive Binary64
  | nan
  | infinite (negative : Bool)
  | finite (negative : Bool) (mantissa : Nat) (exponent : Int)
  deriving DecidableEq, Repr, Inhabited

/-- `num / den` to the nearest integer, a half going to the even neighbour. -/
def roundHalfEven (num den : Nat) : Nat :=
  let q := num / den
  let r := num % den
  if 2 * r < den then q
  else if 2 * r > den then q + 1
  else if q % 2 = 0 then q else q + 1

namespace Binary64

/-- The least exponent of a finite double. -/
def minExponent : Int := -1074

/-- The greatest exponent of a finite double. -/
def maxExponent : Int := 971

/-- The numerator and denominator of `num / den / 2 ^ e`. -/
def scaleDown (num den : Nat) (e : Int) : Nat × Nat :=
  match e with
  | .ofNat k => (num, den * pow2 k)
  | .negSucc k => (num * pow2 (k + 1), den)

/-- The exponent at which `num / den` has a 53-bit mantissa, but not below the least one. -/
def exponentOf (num den : Nat) : Int :=
  let low := max ((num.log2 : Int) - den.log2 - 53) minExponent
  let (n, d) := scaleDown num den low
  if n / d < pow2 53 then low else low + 1

/-- The double nearest to `± num / den`. -/
def ofRatio (negative : Bool) (num den : Nat) : Binary64 :=
  if num = 0 then .finite negative 0 minExponent
  else
    let e := exponentOf num den
    let (n, d) := scaleDown num den e
    let q := roundHalfEven n d
    let (q, e) := if q = pow2 53 then (pow2 52, e + 1) else (q, e)
    if e > maxExponent then .infinite negative else .finite negative q e

/-- The double nearest to a natural number. -/
def ofNat (n : Nat) : Binary64 := ofRatio false n 1

/-- The double nearest to `± m · 2 ^ e`. -/
def ofDyadic (negative : Bool) (m : Nat) : Int → Binary64
  | .ofNat k => ofRatio negative (m * pow2 k) 1
  | .negSucc k => ofRatio negative m (pow2 (k + 1))

def zero : Binary64 := .finite false 0 minExponent

def one : Binary64 := ofNat 1

def isNan : Binary64 → Bool
  | nan => true
  | _ => false

def isFinite : Binary64 → Bool
  | finite .. => true
  | _ => false

/-- The sign bit; that of the one value that is not a number is clear. -/
def isNegative : Binary64 → Bool
  | nan => false
  | infinite s => s
  | finite s _ _ => s

def neg : Binary64 → Binary64
  | nan => nan
  | infinite s => infinite (!s)
  | finite s m e => finite (!s) m e

/-- Product. -/
def mul : Binary64 → Binary64 → Binary64
  | nan, _ => nan
  | _, nan => nan
  | infinite s, infinite t => infinite (s != t)
  | infinite s, finite t m _ => if m = 0 then nan else infinite (s != t)
  | finite s m _, infinite t => if m = 0 then nan else infinite (s != t)
  | finite s m e, finite t n f => ofDyadic (s != t) (m * n) (e + f)

/-- `± m · 2 ^ e` as an integer count of `2 ^ unit`, for `unit ≤ e`. -/
def units (negative : Bool) (m : Nat) (e unit : Int) : Int :=
  let n : Int := (m * pow2 (e - unit).toNat : Nat)
  if negative then -n else n

/-- Sum. A sum that is exactly zero is positive unless both terms are negative. -/
def add : Binary64 → Binary64 → Binary64
  | nan, _ => nan
  | _, nan => nan
  | infinite s, infinite t => if s = t then infinite s else nan
  | infinite s, finite .. => infinite s
  | finite .., infinite t => infinite t
  | finite s m e, finite t n f =>
    let unit := min e f
    let total := units s m e unit + units t n f unit
    if total = 0 then .finite (s && t) 0 minExponent
    else ofDyadic (total < 0) total.natAbs unit

def sub (a b : Binary64) : Binary64 := add a b.neg

/-- Quotient by a positive natural number. -/
def divNat (a : Binary64) (k : Nat) : Binary64 :=
  match a with
  | nan => nan
  | infinite s => infinite s
  | finite s m (.ofNat e) => ofRatio s (m * pow2 e) k
  | finite s m (.negSucc e) => ofRatio s m (k * pow2 (e + 1))

/-- Order of two doubles; nothing compares with a value that is not a number, and the zeros are equal. -/
def lt : Binary64 → Binary64 → Bool
  | nan, _ => false
  | _, nan => false
  | infinite s, infinite t => s && !t
  | infinite s, finite .. => s
  | finite .., infinite t => !t
  | finite s m e, finite t n f =>
    let unit := min e f
    units s m e unit < units t n f unit

/-- Equality as numbers: the zeros are equal and a value that is not a number equals nothing. -/
def numEq : Binary64 → Binary64 → Bool
  | nan, _ => false
  | _, nan => false
  | finite s m e, finite t n f => (m == 0 && n == 0) || (s == t && m == n && e == f)
  | a, b => decide (a = b)

/-- Multiplies `base ^ k` onto `acc` by repeated squaring, the low bits of `k` first. -/
def powLoop (acc base : Binary64) (k : Nat) : Binary64 :=
  let acc' := if k % 2 = 1 then acc.mul base else acc
  if k / 2 = 0 then acc' else powLoop acc' (base.mul base) (k / 2)
termination_by k
decreasing_by omega

/-- A power with a natural exponent, each product rounded. -/
def pow (base : Binary64) (k : Nat) : Binary64 := powLoop one base k

/-- The nearest natural number, a half going up; nothing below zero, `limit` at the top. -/
def roundToNat (a : Binary64) (limit : Nat) : Nat :=
  match a with
  | nan => 0
  | infinite s => if s then 0 else limit
  | finite true _ _ => 0
  | finite false m (.ofNat e) => min (m * pow2 e) limit
  | finite false m (.negSucc e) => min ((2 * m + pow2 (e + 1)) / pow2 (e + 2)) limit

/-- The exact value as a numerator over a denominator, without the sign; none if not finite. -/
def ratio? : Binary64 → Option (Nat × Nat)
  | finite _ m (.ofNat e) => some (m * pow2 e, 1)
  | finite _ m (.negSucc e) => some (m, pow2 (e + 1))
  | _ => none

/-- The 64 bits of the interchange format. -/
def toBits : Binary64 → Nat
  | nan => 0x7ff8000000000000
  | infinite s => (if s then pow2 63 else 0) + 0x7ff0000000000000
  | finite s m e =>
    (if s then pow2 63 else 0) +
      (if m < pow2 52 then m else (e + 1075).toNat * pow2 52 + (m - pow2 52))

/-- The double with the given 64 bits. -/
def ofBits (bits : Nat) : Binary64 :=
  let negative := decide (bits / pow2 63 % 2 = 1)
  let biased : Nat := bits / pow2 52 % pow2 11
  let fraction : Nat := bits % pow2 52
  if biased = 2047 then (if fraction = 0 then .infinite negative else .nan)
  else if biased = 0 then .finite negative fraction minExponent
  else .finite negative (fraction + pow2 52) ((biased : Int) - 1075)

end Binary64
end ProxyWatch
