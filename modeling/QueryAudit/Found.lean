import QueryAudit.Decimal.Shortest
import QueryAudit.Text.Quoted
/-!
# Values where others are expected

Files and answers may hold a value of the wrong kind. A message then says what was found: the kind, and
for a simple value also the value.
-/

namespace QueryAudit

/-- A value that stands where another is expected. -/
inductive Found
  | null
  | boolean (value : Bool)
  | integer (value : Int)
  | floating (value : Decimal.Floating)
  | text (value : String)
  | sequence
  | map
deriving DecidableEq

/-- How a value is named in messages, floating-point numbers in a style. -/
def Found.describe (style : Decimal.Style) : Found → String
  | null => "null"
  | boolean value => "boolean " ++ Text.inBackquotes (if value then "true" else "false")
  | integer value => "integer " ++ Text.inBackquotes (String.ofList (Numeral.signedDecimal value))
  | floating value => "floating point " ++ Text.inBackquotes (String.ofList (value.render style))
  | text value => "string " ++ Text.quoted value
  | sequence => "sequence"
  | map => "map"

end QueryAudit
