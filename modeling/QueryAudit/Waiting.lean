import QueryAudit.Sink
/-!
# Waiting for an answer

A client waits for the head of an answer and then for its body, each time for as long as it was told to.
What takes longer does not count. A wait ends at a point of the machine's clock; one that would end at a
point the clock cannot show breaks the client down, and then nobody learns what became of the request.
`Sink.deliver` is the write of a record by a client that waits.
-/

namespace QueryAudit

/-- How a delivery goes in time, in nanoseconds. -/
structure Course where
  /-- The clock when the client begins to wait. -/
  start : Nat := 0
  /-- Until the head of the answer is there. -/
  head : Nat := 0
  /-- From then on, until its body is there. -/
  body : Nat := 0
  /-- Whether the request gets out before a client that breaks down at once takes it along. -/
  getsOut : Bool := false

namespace Course

/-- Nanoseconds in a second. -/
def second : Nat := 1000000000

/-- The last second that the clock can show. -/
def lastSecond : Nat := 9223372036854775807

/-- Whether something that takes some nanoseconds takes too long for a wait. -/
def isLate (duration : Nat) (seconds : UInt64) : Bool := decide (seconds.toNat * second ≤ duration)

/-- Whether a wait that begins now would end at a point that the clock cannot show. -/
def isBeyond (now : Nat) (seconds : UInt64) : Bool := decide (lastSecond < now / second + seconds.toNat)

/-- A collector as a client finds it that waits for some seconds. One that takes too long for the head of
its answer seems to close, and one that takes too long for the body seems to end before it. -/
def seen (k : Course) (seconds : UInt64) : Collector → Collector
  | .listening (.answer status compressed body transfer) =>
    if isLate k.head seconds then .listening .close
    else .listening (.answer status compressed body (if isLate k.body seconds then .cut else transfer))
  | c => c

/-- Whether the wait for the head breaks the client down, or else the wait for the body, which a client gets to
once the head is there. -/
def breaksDown (k : Course) (seconds : UInt64) (c : Collector) (q : Request) : Bool :=
  isBeyond k.start seconds ||
    match k.seen seconds c, q.url.scheme with
    | .listening (.answer ..), .http => q.isSendable && isBeyond (k.start + k.head) seconds
    | _, _ => false

/-- What the collector has received from a client that breaks down. -/
def receivedBefore (k : Course) (seconds : UInt64) (c : Collector) (q : Request) : List Received :=
  if isBeyond k.start seconds && !k.getsOut then [] else (c.exchange q).received

end Course

/-- How the delivery of a record ends. -/
inductive Delivery
  | attempt (attempt : Attempt)
  /-- The client breaks down. -/
  | breakdown (received : List Received)

namespace Sink

/-- The write of a record by a client that waits for some seconds. Without a request there is nothing to
wait for. -/
def deliver (s : Sink) (k : Course) (seconds : UInt64) (r : Record) (c : Collector) : Delivery :=
  match (Request.build r s.deployment).toOption.filter (k.breaksDown seconds c) with
  | some q => .breakdown (k.receivedBefore seconds c q)
  | none => .attempt (s.write r (k.seen seconds c))

end Sink

end QueryAudit
