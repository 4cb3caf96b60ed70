/-!
Hexadecimal digits and numerals.
-/
namespace ProxyWatch.Hex

/-- The digit of a number below sixteen, in lower case. -/
def lowerDigit (n : Nat) : Char := if n < 10 then Char.ofNat (48 + n) else Char.ofNat (87 + n)

/-- The digit of a number below sixteen, in upper case. -/
def upperDigit (n : Nat) : Char := if n < 10 then Char.ofNat (48 + n) else Char.ofNat (55 + n)

/-- The value of a digit in either case. -/
def value? (c : Char) : Option Nat :=
  let n := c.toNat
  if 48 ≤ n ∧ n ≤ 57 then some (n - 48)
  else if 97 ≤ n ∧ n ≤ 102 then some (n - 87)
  else if 65 ≤ n ∧ n ≤ 70 then some (n - 55)
  else none

def isDigit (c : Char) : Bool := (value? c).isSome

/-- The number that a run of digits writes. -/
def number (cs : List Char) : Nat := cs.foldl (fun n c => n * 16 + (value? c).getD 0) 0

/-- A numeral in lower case; zero has one digit. -/
def digits (n : Nat) : List Char :=
  if n < 16 then [lowerDigit n] else digits (n / 16) ++ [lowerDigit (n % 16)]
termination_by n
decreasing_by omega

end ProxyWatch.Hex
