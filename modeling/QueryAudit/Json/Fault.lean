import QueryAudit.Found
import QueryAudit.Text.Utf8
/-!
# What is wrong with a JSON text

A reading of a JSON text fails with a `Fault`: the cause, and how many octets were still unread when
it was noticed. `Fault.locate` turns that into line and column. Columns count octets: the column is
the number of octets since the last line break, up to and including the one the fault is about.
-/

namespace QueryAudit.Json

/-- Why a reading fails. -/
inductive Cause
  | endInObject
  | endInList
  | endInText
  | endInValue
  | colonExpected
  | listSeparatorExpected
  | objectSeparatorExpected
  | literalExpected
  | valueExpected
  | invalidEscape
  | invalidNumber
  | numberOutOfRange
  | invalidCodePoint
  | controlCharacter
  | keyNotText
  | loneSurrogate
  | surrogatePairCut
  | trailingComma
  | trailingCharacters
  | wrongType (found : Found) (expected : String)
  | wrongValue (found : Found) (expected : String)
  | duplicateField (name : String)
deriving DecidableEq

/-- A cause and the number of octets that were unread when it was noticed. -/
structure Fault where
  cause : Cause
  left : Nat
deriving DecidableEq

/-- How floating-point numbers appear in messages: far from one, behind an exponent. -/
def floatStyle : Decimal.Style := .positionalBetween (-4) 15

/-- The wording of a cause. -/
def Cause.describe : Cause → String
  | endInObject => "EOF while parsing an object"
  | endInList => "EOF while parsing a list"
  | endInText => "EOF while parsing a string"
  | endInValue => "EOF while parsing a value"
  | colonExpected => "expected " ++ Text.inBackquotes ":"
  | listSeparatorExpected => "expected " ++ Text.inBackquotes "," ++ " or " ++ Text.inBackquotes "]"
  | objectSeparatorExpected =>
    "expected " ++ Text.inBackquotes "," ++ " or " ++ Text.inBackquotes "\x7d"
  | literalExpected => "expected ident"
  | valueExpected => "expected value"
  | invalidEscape => "invalid escape"
  | invalidNumber => "invalid number"
  | numberOutOfRange => "number out of range"
  | invalidCodePoint => "invalid unicode code point"
  | controlCharacter => "control character (\\u0000-\\u001F) found while parsing a string"
  | keyNotText => "key must be a string"
  | loneSurrogate => "lone leading surrogate in hex escape"
  | surrogatePairCut => "unexpected end of hex escape"
  | trailingComma => "trailing comma"
  | trailingCharacters => "trailing characters"
  | wrongType found expected => "invalid type: " ++ found.describe floatStyle ++ ", expected " ++ expected
  | wrongValue found expected => "invalid value: " ++ found.describe floatStyle ++ ", expected " ++ expected
  | duplicateField name => "duplicate field " ++ Text.inBackquotes name

/-- A fault about what was read last. -/
def Fault.here (cause : Cause) (rest : Bytes) : Fault := ⟨cause, rest.length⟩

/-- A fault about the next octet, which is not read yet. -/
def Fault.ahead (cause : Cause) (rest : Bytes) : Fault := ⟨cause, rest.length - 1⟩

/-- The line break octet. -/
def lineBreak : UInt8 := 0x0A

/-- Line of the end of a text, counted from one. -/
def line (bs : Bytes) : Nat := bs.count lineBreak + 1

/-- Octets since the last line break of a text. -/
def column (bs : Bytes) : Nat := (bs.reverse.takeWhile (· != lineBreak)).length

/-- A cause and its place in the text. -/
structure Located where
  cause : Cause
  line : Nat
  column : Nat
deriving DecidableEq

/-- The place of a fault in a text. -/
def Fault.locate (text : Bytes) (f : Fault) : Located :=
  let read := text.take (text.length - f.left)
  ⟨f.cause, Json.line read, Json.column read⟩

/-- The wording of a fault: cause, line and column. -/
def Located.message (f : Located) : String :=
  f.cause.describe ++ " at line " ++ String.ofList (Numeral.decimal f.line) ++ " column "
    ++ String.ofList (Numeral.decimal f.column)

end QueryAudit.Json
