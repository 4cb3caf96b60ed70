/-!
Punycode: the characters of a label beyond ASCII written as ASCII letters and digits, in ascending order,
each as its distance from the one before.
-/
namespace ProxyWatch.Punycode

/-- The digit of a number below 36: letters first. -/
def digitChar (d : Nat) : Char := if d < 26 then Char.ofNat (97 + d) else Char.ofNat (22 + d)

/-- The value of a digit in either case. -/
def digitValue? (c : Char) : Option Nat :=
  let n := c.toLower.toNat
  if 97 ≤ n ∧ n ≤ 122 then some (n - 97)
  else if 48 ≤ n ∧ n ≤ 57 then some (n - 22)
  else none

/-- The least digit value that does not end a number at position `k`, counted in steps of 36. -/
def threshold (k bias : Nat) : Nat := if k ≤ bias then 1 else min (k - bias) 26

theorem threshold_pos (k bias : Nat) : 1 ≤ threshold k bias := by
  unfold threshold; split <;> omega

/-- Divides by 35 until at most 455 is left; `k` grows by 36 each time. -/
def scaleBias (delta k : Nat) : Nat :=
  if 455 < delta then scaleBias (delta / 35) (k + 36) else k + 36 * delta / (delta + 38)
termination_by delta
decreasing_by omega

/-- The bias after a distance was written as character number `count`. -/
def adapt (delta count : Nat) (first : Bool) : Nat :=
  let d := if first then delta / 700 else delta / 2
  scaleBias (d + d / count) 0

/-- The digits of a distance, the lowest first. -/
def writeNumber (bias k q : Nat) : List Char :=
  let t := threshold k bias
  if q < t then [digitChar q]
  else digitChar (t + (q - t) % (36 - t)) :: writeNumber bias (k + 36) ((q - t) / (36 - t))
termination_by q
decreasing_by
  have h1 := threshold_pos k bias
  exact Nat.lt_of_le_of_lt (Nat.div_le_self _ _) (by omega)

/-- The state of writing. -/
structure Writer where
  out : List Char
  delta : Nat := 0
  bias : Nat := 72
  /-- How many characters are written. -/
  count : Nat
  /-- How many of them are ASCII. -/
  plain : Nat

/-- Passes one character of the label while the characters with code `code` are written. -/
def Writer.pass (code : Nat) (w : Writer) (c : Char) : Writer :=
  if c.toNat < code then { w with delta := w.delta + 1 }
  else if c.toNat = code then
    { w with
      out := w.out ++ writeNumber w.bias 36 w.delta
      delta := 0
      bias := adapt w.delta (w.count + 1) (w.count == w.plain)
      count := w.count + 1 }
  else w

/-- Writes the characters with the given codes, which ascend from `code` on. -/
def Writer.run (label : List Char) (w : Writer) (code : Nat) : List Nat → Writer
  | [] => w
  | next :: rest =>
    let w := { w with delta := w.delta + (next - code) * (w.count + 1) }
    let w := label.foldl (Writer.pass next) w
    run label { w with delta := w.delta + 1 } (next + 1) rest

/-- The label in ASCII, without a mark that says so. -/
def encode (label : List Char) : List Char :=
  let plain := label.filter (·.toNat < 128)
  let codes := ((label.filter (·.toNat ≥ 128)).map Char.toNat).eraseDups.mergeSort
  let start := if plain.isEmpty then [] else plain ++ ['-']
  (Writer.run label { out := start, count := plain.length, plain := plain.length } 128 codes).out

/-- Reads a number: the sum and the rest of the text, which is shorter. -/
def readNumber (bias : Nat) (k weight sum : Nat) :
    (cs : List Char) → Option (Nat × { r : List Char // r.length < cs.length })
  | [] => none
  | c :: r => do
    let d ← digitValue? c
    if d < threshold k bias then return (sum + d * weight, ⟨r, by simp⟩)
    else
      let (n, rest) ← readNumber bias (k + 36) (weight * (36 - threshold k bias)) (sum + d * weight) r
      return (n, ⟨rest.1, by have := rest.2; simp; omega⟩)

/-- Inserts one character after another. `index` counts places and code points together. -/
def insertAll (bias code index : Nat) (label : List Char) (cs : List Char) : Option (List Char) :=
  match cs with
  | [] => some label
  | c :: r =>
    match readNumber bias 36 1 index (c :: r) with
    | none => none
    | some (n, rest) =>
      let count := label.length + 1
      let next := code + n / count
      if next.isValidChar then
        insertAll (adapt (n - index) count (index == 0)) next (n % count + 1)
          (label.insertIdx (n % count) (Char.ofNat next)) rest.1
      else none
termination_by cs.length
decreasing_by exact rest.2

/-- The label that an ASCII form without its mark stands for. -/
def decode? (cs : List Char) : Option (List Char) :=
  let tail := cs.reverse.takeWhile (· != '-')
  let plain := (cs.take (cs.length - tail.length)).dropLast
  if cs.all (·.toNat < 128) then insertAll 72 128 0 plain tail.reverse else none

end ProxyWatch.Punycode
