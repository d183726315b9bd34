import QueryAudit.Text.Utf8
import QueryAudit.Toml.Node
/-!
# Pointing at a value

A `Complaint` is about a value that is of the wrong kind for its place. Its text shows the line of the
value with a mark under it.
-/

namespace QueryAudit.Toml

/-- What is wrong with a value. -/
inductive Mistake
  | wrongType (found : Found) (expected : String)
  | wrongValue (found : Found) (expected : String)
  | unknownVariant (name : String) (known : List String)
  | emptyArrayExpected
  | emptyTableExpected
  | tableExpected (found : String)
  | noElement
  | manyElements
  | textOrTableExpected
deriving DecidableEq

/-- A mistake and where it is. -/
structure Complaint where
  mistake : Mistake
  span : Span
deriving DecidableEq

/-- How floating-point numbers appear in messages. -/
def floatStyle : Decimal.Style := .positional

/-- Words to choose from. -/
def choices (known : List String) : String :=
  match known with
  | [a, b] => "expected " ++ Text.inBackquotes a ++ " or " ++ Text.inBackquotes b
  | known => "expected one of " ++ ", ".intercalate (known.map Text.inBackquotes)

/-- The wording of a mistake. -/
def Mistake.describe : Mistake → String
  | wrongType found expected => "invalid type: " ++ found.describe floatStyle ++ ", expected " ++ expected
  | wrongValue found expected =>
    "invalid value: " ++ found.describe floatStyle ++ ", expected " ++ expected
  | unknownVariant name known =>
    "unknown variant " ++ Text.inBackquotes name ++ ", " ++ choices known
  | emptyArrayExpected => "expected empty array"
  | emptyTableExpected => "expected empty table"
  | tableExpected found => "expected table, found " ++ found
  | noElement => "wanted exactly 1 element, found 0 elements"
  | manyElements => "wanted exactly 1 element, more than 1 element"
  | textOrTableExpected => "wanted string or table"

namespace Complaint

/-- The wording of a complaint about a text: its place, its line, a mark under the value as far as the
line goes, and the mistake. The mark is at least one character long. -/
def render (text : List Char) (c : Complaint) : String :=
  let start := text.length - c.span.fromStart
  let stop := text.length - c.span.fromStop
  let before := text.take start
  let number := before.count '\n' + 1
  let column := (before.reverse.takeWhile (· != '\n')).length
  let line := (text.drop (start - column)).takeWhile (· != '\n')
  let size (s : List Char) : Nat := (Utf8.encode s).length
  let mark := max 1 (min (size ((text.drop start).take (stop - start))) (size line - column))
  let digits := Numeral.decimal number
  let margin := List.replicate (digits.length + 1) ' '
  "TOML parse error at line " ++ String.ofList digits ++ ", column "
    ++ String.ofList (Numeral.decimal (column + 1)) ++ "\n"
    ++ String.ofList (margin ++ ['|', '\n'] ++ digits ++ [' ', '|', ' '] ++ line ++ ['\n'] ++ margin
      ++ '|' :: List.replicate (column + 1) ' ' ++ List.replicate mark '^' ++ ['\n'])
    ++ c.mistake.describe ++ "\n"

end Complaint

end QueryAudit.Toml
