import QueryAudit.Json.Shape
import QueryAudit.Json.Value
/-!
# Audited queries

A `Record` is one executed query as it is handed over: its text, who ran it and when. Nothing in it is
checked or changed; any of it may be empty.
-/

namespace QueryAudit

/-- One executed query. -/
structure Record where
  /-- Text of the executed statement. -/
  query : String := ""
  /-- Identity of the invoker. -/
  user : String := ""
  /-- Seconds since the epoch at which the query ran. -/
  timestamp : Int64 := 0
deriving DecidableEq

namespace Record

/-- The fields of a record in JSON. -/
def shape : Json.Shape Record where
  title := "struct QueryRecord"
  fields := [
    ⟨"query", [], .text fun s r => { r with query := s }⟩,
    ⟨"user", [], .text fun s r => { r with user := s }⟩,
    ⟨"timestamp", [], .integer fun n r => { r with timestamp := n }⟩]
  initial := {}

/-- The record that a JSON text holds. -/
def ofJson (text : Bytes) : Except Json.Located Record := shape.decode text

/-- The record as a JSON value, with every field. -/
def value (r : Record) : Json.Value :=
  .ofMembers [("query", .ofString r.query), ("user", .ofString r.user),
    ("timestamp", .integer r.timestamp.toInt)]

/-- The record as JSON text. -/
def toJson (r : Record) : String := r.value.toText

end Record

end QueryAudit
