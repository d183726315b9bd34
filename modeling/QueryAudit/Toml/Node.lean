import QueryAudit.Found
/-!
# TOML documents

A document is a table: keys with their nodes, in the order in which they are defined. Each key and node
remembers where it stands in the text, so that a value of the wrong kind can be pointed at. A table also
remembers how it came to be, because that decides what may still be added to it.
-/

namespace QueryAudit.Toml

/-- A piece of a text: how many characters are left where it starts, and where it ends. -/
structure Span where
  fromStart : Nat
  fromStop : Nat
deriving DecidableEq

/-- A key as it stands in the text. -/
structure Key where
  name : String
  span : Span
deriving DecidableEq

/-- How a table came to be. -/
inductive Origin
  /-- By a header of its own. -/
  | header
  /-- By a longer header. -/
  | implied
  /-- By a dotted key. -/
  | dotted
  /-- As a value between braces. -/
  | inline
deriving DecidableEq

/-- A value that has no parts. -/
inductive Scalar
  | text (s : String)
  | integer (n : Int)
  | floating (x : Decimal.Floating)
  | boolean (b : Bool)
  | datetime
deriving DecidableEq

/-- A node of a document. -/
inductive Node
  | scalar (value : Scalar) (span : Span)
  | array (items : List Node) (span : Span)
  | table (origin : Origin) (span : Option Span) (entries : List (Key × Node))
  /-- The tables of one repeated header, in order. -/
  | tables (elements : List Node)

/-- The entries of a table. -/
abbrev Entries := List (Key × Node)

namespace Node

/-- The part of the text that a node stands for. A table that has no text of its own has none. -/
def span? : Node → Option Span
  | scalar _ span => some span
  | array _ span => some span
  | table _ span _ => span
  | tables elements =>
    let own : Node → Option Span
      | table _ span _ => span
      | _ => none
    match elements.head?.bind own, elements.getLast?.bind own with
    | some first, some last => some ⟨first.fromStart, last.fromStop⟩
    | _, _ => none

/-- What a node is called where something else is expected. A point in time counts as a table. -/
def found : Node → Found
  | scalar (.text s) _ => .text s
  | scalar (.integer n) _ => .integer n
  | scalar (.floating x) _ => .floating x
  | scalar (.boolean b) _ => .boolean b
  | scalar .datetime _ => .map
  | array .. => .sequence
  | table .. => .map
  | tables _ => .sequence

/-- The name of the kind of a node. -/
def kind : Node → String
  | scalar (.text _) _ => "string"
  | scalar (.integer _) _ => "integer"
  | scalar (.floating _) _ => "float"
  | scalar (.boolean _) _ => "boolean"
  | scalar .datetime _ => "datetime"
  | array .. => "array"
  | table .inline .. => "inline table"
  | table .. => "table"
  | tables _ => "array of tables"

end Node

/-- The node of a name in a table. -/
def Entries.get? (es : Entries) (name : String) : Option (Key × Node) :=
  es.find? (·.1.name == name)

end QueryAudit.Toml
