import QueryAudit.Text.Unprintable
import QueryAudit.Numeral
/-!
# Quoted text

How a text is shown inside a message: between quotation marks, on one line, with an escape for
every character that could not be seen. `quoted` is used wherever a message repeats what somebody
typed, `inBackquotes` where it repeats a word of its own.
-/

namespace QueryAudit.Text

/-- An escape by number: `\u` and the hexadecimal digits in braces. -/
def numericEscape (c : Char) : List Char :=
  ['\\', 'u', '{'] ++ Numeral.hex c.toNat ++ ['}']

/-- A character inside a quoted text. -/
def quoteChar (c : Char) : List Char :=
  if c = '\x00' then ['\\', '0']
  else if c = '\t' then ['\\', 't']
  else if c = '\r' then ['\\', 'r']
  else if c = '\n' then ['\\', 'n']
  else if c = '\\' then ['\\', '\\']
  else if c = '"' then ['\\', '"']
  else if isUnprintable c then numericEscape c
  else [c]

/-- The quoted form of a sequence of characters. -/
def quote (s : List Char) : List Char := '"' :: s.flatMap quoteChar ++ ['"']

/-- The quoted form of a text. -/
def quoted (s : String) : String := String.ofList (quote s.toList)

/-- A word between backquotes. -/
def inBackquotes (s : String) : String := "\x60" ++ s ++ "\x60"

end QueryAudit.Text
