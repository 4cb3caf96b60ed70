/-!
Decimal numerals: digits of a natural number, numerals of a fixed width, and the value of a digit run.
-/
namespace ProxyWatch.Decimal

/-- The character of a digit below ten. -/
def digitChar (d : Nat) : Char := Char.ofNat ('0'.toNat + d)

/-- The digits of `n`, most significant first; zero has one digit. -/
def digits (n : Nat) : List Char :=
  if n < 10 then [digitChar n] else digits (n / 10) ++ [digitChar (n % 10)]
termination_by n
decreasing_by omega

/-- The digits of `n` with zeros in front up to `width`. -/
def padded (width n : Nat) : List Char :=
  List.replicate (width - (digits n).length) '0' ++ digits n

/-- The value of a decimal digit. -/
def digitValue (c : Char) : Nat := c.toNat - '0'.toNat

/-- The number that a run of digits writes. -/
def value (cs : List Char) : Nat := cs.foldl (fun n c => n * 10 + digitValue c) 0

/-- A numeral as text. -/
def text (n : Nat) : String := String.ofList (digits n)

/-- An integer as text, with a minus sign in front of a negative one. -/
def intText (i : Int) : String :=
  if i < 0 then "-" ++ text i.natAbs else text i.natAbs

/-- The run of decimal digits at the front of a text, and what follows it. -/
def run (cs : List Char) : List Char × List Char := cs.span Char.isDigit

end ProxyWatch.Decimal
