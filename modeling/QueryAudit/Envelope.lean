import QueryAudit.Deployment
import QueryAudit.Record
/-!
# Event envelopes

An `Envelope` is the body of one event: the audited query with the pod that ran it, inside what the
collector wants to know about any event. The order of its members is part of the format.
-/

namespace QueryAudit

/-- The body of one event. -/
structure Envelope where
  query : String
  user : String
  podNamespace : String
  pod : String
  host : String
  index : String
  time : Int64
deriving DecidableEq

namespace Envelope

/-- Source type of every event: the collector takes `event` apart as JSON. -/
def sourceType : String := "_json"

/-- The envelope of a record. Nothing is checked: empty texts and a zero time go out as they are. -/
def ofRecord (r : Record) (d : Deployment) : Envelope where
  query := r.query
  user := r.user
  podNamespace := d.podNamespace
  pod := d.pod
  host := d.host
  index := d.index
  time := r.timestamp

/-- The audited query and the pod that ran it. -/
def event (e : Envelope) : Json.Value :=
  .ofMembers [("query", .ofString e.query), ("user", .ofString e.user),
    ("namespace", .ofString e.podNamespace), ("pod", .ofString e.pod)]

/-- The index, unless it is left to the collector. -/
def indexMember (e : Envelope) : List (String × Json.Value) :=
  if e.index = "" then [] else [("index", .ofString e.index)]

/-- The envelope as a JSON value. -/
def value (e : Envelope) : Json.Value :=
  .ofMembers ([("event", e.event), ("sourcetype", .ofString sourceType), ("host", .ofString e.host)]
    ++ e.indexMember ++ [("time", .integer e.time.toInt)])

/-- The text of the body. -/
def toText (e : Envelope) : String := e.value.toText

/-- The octets of the body. -/
def body (e : Envelope) : Bytes := octets e.toText

end Envelope

end QueryAudit
