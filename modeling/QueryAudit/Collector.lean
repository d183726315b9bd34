import QueryAudit.Request
/-!
# The collector

What happens to a request on its way and what comes back. A `Collector` either cannot be reached or
listens, and one that listens has a `Reply` ready. `Collector.exchange` says what it receives, which is
at most the request, and what the sender gets: the whole body of an answer, or a failure. The status
of the answer is told but decides nothing, except that two statuses never come with a body.
-/

namespace QueryAudit

/-- A request as it arrives. -/
structure Received where
  method : String
  /-- The address without its fragment. -/
  url : String
  headers : List (String × String)
  body : Bytes
deriving DecidableEq

namespace Request

/-- The request as it arrives: the length of the body and the host are among the headers. -/
def received (q : Request) : Received where
  method := method
  url := String.ofList q.url.renderPage
  headers :=
    let length := ("content-length", String.ofList (Numeral.decimal q.body.length))
    let host := ("host", String.ofList q.url.authority)
    match q.headers with
    | accept :: encoding :: authorization :: rest =>
      [accept, encoding, authorization, length] ++ rest.take 1 ++ [host] ++ rest.drop 1
    | headers => headers ++ [length, host]
  body := q.body

/-- A character that the host in a request line may hold. -/
def isHostChar (c : Char) : Bool := c != '"' && c != '\x60' && c != '{' && c != '}'

/-- Longest address that can be sent. -/
def greatestLength : Nat := 65534

/-- Whether the address can be written into a request line. -/
def isSendable (q : Request) : Bool :=
  q.url.host.render.all isHostChar && decide (q.url.render.length ≤ greatestLength)

end Request

/-- How the body of an answer comes through. -/
inductive Transfer
  | whole
  /-- The connection ends before the announced length. -/
  | cut
  /-- The body is not in the coding that its header names. -/
  | miscoded
deriving DecidableEq

/-- What a collector does with a request. The status is that of the answer itself, from 200 on: interim answers, whose
statuses are below that, are read past and leave nothing behind. -/
inductive Reply
  | close
  | answer (status : Nat) (compressed : Bool) (body : Bytes) (transfer : Transfer)
deriving DecidableEq

/-- A collector, as one request finds it. -/
inductive Collector
  | unreachable
  | listening (reply : Reply)
deriving DecidableEq

/-- An answer that was read to its end. -/
structure Answer where
  url : String
  status : Nat
  body : Bytes
deriving DecidableEq

/-- What one request leads to: what the collector received, and what the sender got. -/
structure Exchange where
  received : List Received
  answer : Outcome Answer

namespace Collector

/-- A status whose answer has no body. Among the statuses of a `Reply` there are two. -/
def isBodiless (status : Nat) : Bool := status == 204 || status == 304

/-- What the sender makes of a reply. -/
def read (q : Request) : Reply → Outcome Answer
  | .close => .error (.send (.noAnswer q.address))
  | .answer status _ body transfer =>
    if isBodiless status then .ok ⟨q.address, status, []⟩
    else
      match transfer with
      | .whole => .ok ⟨q.address, status, body⟩
      | .cut | .miscoded => .error (.send .answerCut)

/-- What a request leads to. Only a plain `http` address is within reach. -/
def exchange (c : Collector) (q : Request) : Exchange :=
  if ¬q.isSendable then ⟨[], .error (.send (.unsendable q.address))⟩
  else
    match c, q.url.scheme with
    | .listening reply, .http => ⟨[q.received], read q reply⟩
    | _, _ => ⟨[], .error (.send (.noAnswer q.address))⟩

end Collector

end QueryAudit
