import ProxyWatch.Text.Hex

/-!
Percent-encoding: which characters of a url's parts are written as escaped bytes, and reading escapes.
-/
namespace ProxyWatch.Percent

/-- The escape of one byte. -/
def escape (b : UInt8) : List Char := ['%', Hex.upperDigit (b.toNat / 16), Hex.upperDigit (b.toNat % 16)]

/-- A set of characters that are escaped. -/
abbrev EncodeSet := Char → Bool

/-- Controls and everything beyond ASCII. -/
def controls : EncodeSet := fun c => c.toNat < 0x20 || c.toNat > 0x7E

/-- Characters escaped in a fragment. -/
def fragment : EncodeSet := fun c =>
  controls c || c == ' ' || c == '"' || c == '<' || c == '>' || c.toNat == 0x60

/-- Characters escaped in a query. -/
def query : EncodeSet := fun c =>
  controls c || c == ' ' || c == '"' || c == '#' || c == '<' || c == '>'

/-- Characters escaped in the query of a web url. -/
def specialQuery : EncodeSet := fun c => query c || c == '\''

/-- Characters escaped in a path. -/
def path : EncodeSet := fun c =>
  fragment c || c == '#' || c == '?' || c == '\x7b' || c == '\x7d'

/-- Characters escaped in a user name or a password. -/
def userinfo : EncodeSet := fun c => path c || "/:;=@[\\]^|".toList.contains c

/-- The text with the characters of a set escaped, byte by byte of their UTF-8 form. -/
def encode (set : EncodeSet) (cs : List Char) : List Char :=
  cs.flatMap fun c => if set c then (String.utf8EncodeChar c).flatMap escape else [c]

/-- The bytes of a text whose escapes are resolved; a percent sign that starts no escape stays. -/
def decode : List Char → List UInt8
  | '%' :: a :: b :: r =>
    match Hex.value? a, Hex.value? b with
    | some x, some y => UInt8.ofNat (x * 16 + y) :: decode r
    | _, _ => '%'.toUInt8 :: decode (a :: b :: r)
  | c :: r => String.utf8EncodeChar c ++ decode r
  | [] => []

/-- The text with its escapes resolved; none if the bytes are no text. -/
def decodeText? (cs : List Char) : Option (List Char) :=
  (String.fromUTF8? ⟨(decode cs).toArray⟩).map String.toList

end ProxyWatch.Percent
