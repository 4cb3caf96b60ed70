import ProxyWatch.Text.Decimal
import ProxyWatch.Text.Hex

/-!
What the shell's printing commands write: escapes, and formats that are used again for further arguments.
-/
namespace ProxyWatch.Shell.Output

/-- The bytes of a text. -/
def bytes (cs : List Char) : List UInt8 := (String.ofList cs).toUTF8.toList

/-- The byte that a letter after a backslash stands for. -/
def letterEscape? (c : Char) : Option UInt8 :=
  match c with
  | 'a' => some 7
  | 'b' => some 8
  | 't' => some 9
  | 'n' => some 10
  | 'v' => some 11
  | 'f' => some 12
  | 'r' => some 13
  | '\\' => some 92
  | _ => none

def isOctal (c : Char) : Bool := '0' ≤ c && c ≤ '7'

/-- The byte of up to three octal digits, and the rest after them. -/
def octal (cs : List Char) : UInt8 × List Char :=
  let digits := (cs.take 3).takeWhile isOctal
  (UInt8.ofNat (digits.foldl (fun n c => n * 8 + Decimal.digitValue c) 0), cs.drop digits.length)

/-- Replaces escapes by the bytes that they stand for. -/
def unescape : Nat → List Char → List UInt8
  | 0, _ => []
  | fuel + 1, cs =>
    match cs with
    | '\\' :: c :: rest =>
      match letterEscape? c with
      | some b => b :: unescape fuel rest
      | none =>
        if isOctal c then
          let (b, rest) := octal (c :: rest)
          b :: unescape fuel rest
        else bytes ['\\', c] ++ unescape fuel rest
    | c :: rest => bytes [c] ++ unescape fuel rest
    | [] => []

/-- A text with its escapes replaced. -/
def escaped (cs : List Char) : List UInt8 := unescape (cs.length + 1) cs

/-- One pass over a format: what it writes, and the arguments left. -/
def formatOnce : Nat → List Char → List (List Char) → List UInt8 × List (List Char)
  | 0, _, args => ([], args)
  | fuel + 1, cs, args =>
    let also := fun (bs : List UInt8) (r : List UInt8 × List (List Char)) => (bs ++ r.1, r.2)
    match cs with
    | [] => ([], args)
    | '%' :: '%' :: rest => also [37] (formatOnce fuel rest args)
    | '%' :: 'b' :: rest => also (escaped (args.headD [])) (formatOnce fuel rest args.tail)
    | '%' :: 's' :: rest => also (bytes (args.headD [])) (formatOnce fuel rest args.tail)
    | '%' :: 'd' :: rest => also (bytes (args.headD ['0'])) (formatOnce fuel rest args.tail)
    | _ =>
      let piece := cs.takeWhile (· != '%')
      if piece.isEmpty then also [37] (formatOnce fuel (cs.drop 1) args)
      else also (escaped piece) (formatOnce fuel (cs.drop piece.length) args)

/-- A format with arguments; it is used again as long as it takes arguments and some are left. -/
def formatted : Nat → List Char → List (List Char) → List UInt8
  | 0, _, _ => []
  | fuel + 1, format, args =>
    let (bs, left) := formatOnce (format.length + 1) format args
    if left.isEmpty || left.length = args.length then bs else bs ++ formatted fuel format left

end ProxyWatch.Shell.Output
