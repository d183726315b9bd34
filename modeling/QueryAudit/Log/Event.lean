import QueryAudit.Json.Value
import QueryAudit.Log.Level
import QueryAudit.Sink
import QueryAudit.Status
/-!
# Log messages

The program has three messages, all about a write: that it starts, that the collector has answered, and
that it has refused the event. `Event.ofAttempt` says which of them a write leaves behind. None of them
holds the token.
-/

namespace QueryAudit.Log

/-- The value of a field of a message. -/
inductive FieldValue
  | text (s : String)
  | integer (n : Int)
deriving DecidableEq

/-- The text of a value. -/
def FieldValue.render : FieldValue → String
  | text s => s
  | integer n => String.ofList (Numeral.signedDecimal n)

/-- A value in JSON. -/
def FieldValue.value : FieldValue → Json.Value
  | text s => .ofString s
  | integer n => .integer n

/-- A message: its level, the part of the program it comes from, its words and its fields. -/
structure Event where
  level : Level
  target : String
  message : String
  fields : List (String × FieldValue)
deriving DecidableEq

namespace Event

/-- Where the messages of a sink come from. -/
def sinkTarget : String := "gabi_audit::adapters::audit::splunk_audit"

/-- Where the messages of an exchange come from. -/
def exchangeTarget : String := "gabi_audit::adapters::audit::transport"

/-- A write starts. -/
def writing (r : Record) (d : Deployment) : Event :=
  ⟨.debug, sinkTarget, "writing audit event to Splunk",
    [("user", .text r.user), ("time", .integer r.timestamp.toInt), ("index", .text d.index)]⟩

/-- The collector has answered. -/
def responded (a : Answer) : Event :=
  ⟨.debug, exchangeTarget, "collector responded",
    [("url", .text a.url), ("status", .text (Status.describe a.status)),
      ("bytes", .integer a.body.length)]⟩

/-- The collector has refused the event. -/
def refused (code : Int64) (text : String) : Event :=
  ⟨.warn, sinkTarget, "Splunk rejected audit event",
    [("code", .integer code.toInt), ("text", .text text)]⟩

/-- The messages of a write, in order. -/
def ofAttempt (r : Record) (d : Deployment) (a : Attempt) : List Event :=
  writing r d :: (a.answer.map responded).toList
    ++ match a.outcome with
      | .error (.rejected code text) => [refused code text]
      | _ => []

/-- The message as the members of an object. -/
def members (e : Event) : List (String × Json.Value) :=
  [("level", .ofString e.level.label), ("message", .ofString e.message)]
    ++ e.fields.map (fun (name, value) => (name, value.value))
    ++ [("target", .ofString e.target)]

/-- Text between a code for the terminal and the code that ends it. -/
def painted (coloured : Bool) (code s : String) : String :=
  if coloured then "\x1b[" ++ code ++ "m" ++ s ++ "\x1b[0m" else s

/-- The colour of a level. -/
def colour : Level → String
  | .error => "31"
  | .warn => "33"
  | .info => "32"
  | .debug => "34"
  | .trace => "35"

/-- The level, filled with blanks on the left. -/
def paddedLevel (l : Level) : String :=
  String.ofList (List.replicate (5 - l.label.length) ' ') ++ l.label

/-- The message on one line, from behind its time. -/
def line (coloured : Bool) (e : Event) : String :=
  let field : String × FieldValue → String := fun (name, value) =>
    " " ++ painted coloured "3" name ++ painted coloured "2" "=" ++ value.render
  " " ++ painted coloured (colour e.level) (paddedLevel e.level) ++ " " ++ e.message
    ++ String.join (e.fields.map field)

end Event

/-- A message as it is written, without its time. -/
inductive Line
  | text (s : String)
  | object (members : List (String × Json.Value))

/-- A message in a format. -/
def Line.ofEvent (format : Format) (coloured : Bool) (e : Event) : Line :=
  match format with
  | .text => .text (e.line coloured)
  | .json => .object e.members

/-- A message as it is written at a time. -/
def Line.render (coloured : Bool) (time : String) : Line → String
  | text s => Event.painted coloured "2" time ++ s
  | object members => (Json.Value.ofMembers (("timestamp", .ofString time) :: members)).toText

end QueryAudit.Log
