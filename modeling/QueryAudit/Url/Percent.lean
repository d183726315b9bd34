import QueryAudit.Numeral
import QueryAudit.Text.Utf8
/-!
# Percent encoding

A character that a component cannot hold is written as its octets, each as a percent sign and two
hexadecimal digits. What a component cannot hold is a set of ASCII characters; a character outside
ASCII is always encoded, a percent sign never. `decode` goes the other way and leaves a percent sign
alone that is not followed by two digits; `strayEscape?` finds the first of these.
-/

namespace QueryAudit.Url

namespace Percent

/-- A control character of ASCII. -/
def isControl (c : Char) : Bool := c.toNat < 0x20 || c.toNat == 0x7F

/-- What a fragment cannot hold. -/
def fragmentSet (c : Char) : Bool :=
  isControl c || c == ' ' || c == '"' || c == '<' || c == '>' || c == '\x60'

/-- What the query of a web address cannot hold. -/
def querySet (c : Char) : Bool :=
  isControl c || c == ' ' || c == '"' || c == '#' || c == '<' || c == '>' || c == '\x27'

/-- What a path cannot hold. -/
def pathSet (c : Char) : Bool :=
  fragmentSet c || c == '#' || c == '?' || c == '{' || c == '}'

/-- What a user name or password cannot hold. -/
def userSet (c : Char) : Bool :=
  pathSet c || c == '/' || c == ':' || c == ';' || c == '=' || c == '@' || c == '[' || c == '\\'
    || c == ']' || c == '^' || c == '|'

/-- An upper-case hexadecimal digit. -/
def digit (n : Nat) : Char := if n < 10 then Char.ofNat (0x30 + n) else Char.ofNat (0x37 + n)

/-- The escape of one octet. -/
def escape (b : UInt8) : List Char := ['%', digit (b.toNat / 16), digit (b.toNat % 16)]

/-- A character in a component that cannot hold `set`. -/
def encodeChar (set : Char → Bool) (c : Char) : List Char :=
  if set c || !decide (c.toNat < 0x80) then (Utf8.encodeChar c).flatMap escape else [c]

/-- A text in a component that cannot hold `set`. -/
def encode (set : Char → Bool) (s : List Char) : List Char := s.flatMap (encodeChar set)

/-- The octets that a text stands for. -/
def decode : List Char → Bytes
  | [] => []
  | '%' :: a :: b :: rest =>
    match Numeral.hexDigit? a, Numeral.hexDigit? b with
    | some x, some y => UInt8.ofNat (x * 16 + y) :: decode rest
    | _, _ => 0x25 :: decode (a :: b :: rest)
  | c :: rest => Utf8.encodeChar c ++ decode rest

/-- The text that a percent-encoded text stands for, if its octets are well formed. -/
def decodeText? (s : List Char) : Option (List Char) := Utf8.decode? (decode s)

/-! ## Escapes that are none -/

/-- Whether an octet is a hexadecimal digit of ASCII. -/
def isDigitOctet (b : UInt8) : Bool := (Numeral.hexDigit? (Char.ofNat b.toNat)).isSome

/-- The place of the first percent sign that two hexadecimal digits do not follow, where the octets that are left begin
at a given place. A turn takes one octet off them, or the three of an escape, so that there is a last one. -/
def strayFrom? : Nat → Bytes → Option Nat
  | _, [] => none
  | place, b :: rest =>
    if b = 0x25 then
      match rest with
      | x :: y :: after =>
        if isDigitOctet x && isDigitOctet y then strayFrom? (place + 3) after else some place
      | _ => some place
    else strayFrom? (place + 1) rest

/-- The first stray percent sign of a text, with what comes after it. It is looked for in the octets of the text, and
the text is cut at the place where it was found. -/
def strayEscape? (s : List Char) : Option (List Char) :=
  (strayFrom? 0 (Utf8.encode s)).bind fun place => Utf8.dropOctets? place s

end Percent

end QueryAudit.Url
