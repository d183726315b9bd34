import QueryAudit.Ack
import QueryAudit.Collector
/-!
# Sinks

A `Sink` delivers records to the collector of its deployment. One write is one request: nothing is kept
back, nothing is sent twice, and the sink is the same before and after. `Sink.run` follows a list of
sinks through steps that copy, change and use them; a copy shares nothing with what it was made from.
-/

namespace QueryAudit

/-- Where the HTTP client of a sink comes from. -/
inductive Client
  /-- Made with the sink. -/
  | standard
  /-- Given by the caller. -/
  | custom
deriving DecidableEq

/-- Something that delivers records. -/
structure Sink where
  deployment : Deployment
  client : Client
deriving DecidableEq

/-- Values for some of the fields of a deployment. -/
abbrev Values := Deployment.Field → Option String

/-- What can be asked for when a sink is made, or later. -/
inductive Setting
  /-- Events go to this index. -/
  | index (name : String)
  /-- A client of the caller's is used. -/
  | client
  /-- Fields of the deployment are replaced. -/
  | values (values : Values)
  | nothing

/-- What a write led to. -/
structure Attempt where
  outcome : Outcome Unit
  /-- What the collector received. -/
  received : List Received
  /-- The answer, if one was read to its end. -/
  answer : Option Answer

namespace Sink

/-- A setting carried out. -/
def apply (s : Sink) : Setting → Sink
  | .index name => { s with deployment := s.deployment.set .index name }
  | .client => { s with client := .custom }
  | .values values => { s with deployment := s.deployment.overlay values }
  | .nothing => s

/-- A sink for a deployment with a client from somewhere; the settings are carried out in order. -/
def make (d : Deployment) (client : Client) (settings : List Setting) : Sink :=
  settings.foldl apply ⟨d, client⟩

/-- The write of a record: the stages are tried in order, and the first that fails decides. -/
def write (s : Sink) (r : Record) (c : Collector) : Attempt :=
  match Request.build r s.deployment with
  | .error e => ⟨.error e, [], none⟩
  | .ok q =>
    let x := c.exchange q
    match x.answer with
    | .error e => ⟨.error e, x.received, none⟩
    | .ok answer => ⟨Ack.interpret answer.body, x.received, some answer⟩

/-! ## Several sinks -/

/-- A step on a list of sinks. `place` says on which one; a number beyond the last means the last. -/
inductive Step
  | clone (place : Nat)
  | apply (place : Nat) (setting : Setting)
  | write (place : Nat) (record : Record) (collector : Collector)

/-- What a step answers. -/
inductive Told
  | state (sink : Sink)
  | attempt (attempt : Attempt)

/-- The place that a number means. -/
def placeOf (sinks : List Sink) (n : Nat) : Nat := min n (sinks.length - 1)

/-- One step: the sinks after it and its answer. Without a sink there is no step. -/
def step (sinks : List Sink) : Step → List Sink × Option Told
  | .clone n =>
    match sinks[placeOf sinks n]? with
    | some s => (sinks ++ [s], some (.state s))
    | none => (sinks, none)
  | .apply n setting =>
    match sinks[placeOf sinks n]? with
    | some s => (sinks.set (placeOf sinks n) (s.apply setting), some (.state (s.apply setting)))
    | none => (sinks, none)
  | .write n record collector =>
    match sinks[placeOf sinks n]? with
    | some s => (sinks, some (.attempt (s.write record collector)))
    | none => (sinks, none)

/-- The sinks after a list of steps, and the answers in order. -/
def run (sinks : List Sink) : List Step → List Sink × List Told
  | [] => (sinks, [])
  | step :: steps =>
    let (next, told) := Sink.step sinks step
    let (last, rest) := run next steps
    (last, told.toList ++ rest)

end Sink

end QueryAudit
