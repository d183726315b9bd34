import QueryAudit.Numeral
/-!
# Writing JSON

A `Value` is what this library writes: texts, integers and objects whose members keep their order.
`Value.render` is its text without blanks. A text is escaped so far that it stays between its own
quotation marks and holds no control character; everything else is written as it is.
-/

namespace QueryAudit.Json

/-- A JSON value that can be written. -/
inductive Value
  | text (s : List Char)
  | integer (n : Int)
  | object (members : List (List Char × Value))

namespace Value

/-- A character inside a text. -/
def escapeChar (c : Char) : List Char :=
  if c = '"' then ['\\', '"']
  else if c = '\\' then ['\\', '\\']
  else if c = '\x08' then ['\\', 'b']
  else if c = '\x0C' then ['\\', 'f']
  else if c = '\n' then ['\\', 'n']
  else if c = '\r' then ['\\', 'r']
  else if c = '\t' then ['\\', 't']
  else if c.toNat < 0x20 then ['\\', 'u'] ++ Numeral.hexPadded 4 c.toNat
  else [c]

/-- A text between quotation marks. -/
def renderText (s : List Char) : List Char := '"' :: s.flatMap escapeChar ++ ['"']

mutual

/-- The text of a value. -/
def render : Value → List Char
  | text s => renderText s
  | integer n => Numeral.signedDecimal n
  | object members => '{' :: renderMembers members ++ ['}']

/-- The members of an object, with commas between them. -/
def renderMembers : List (List Char × Value) → List Char
  | [] => []
  | [(key, value)] => renderText key ++ ':' :: render value
  | (key, value) :: next :: members =>
    renderText key ++ ':' :: render value ++ ',' :: renderMembers (next :: members)

end

/-- A text value. -/
def ofString (s : String) : Value := text s.toList

/-- An object from keys and values. -/
def ofMembers (members : List (String × Value)) : Value :=
  object (members.map fun (key, value) => (key.toList, value))

/-- The text of a value, as a string. -/
def toText (v : Value) : String := String.ofList v.render

end Value

end QueryAudit.Json
