import QueryAudit.Failure
import QueryAudit.Json.Shape
/-!
# Acknowledgments

The collector answers an event with a code and a text. `Ack.parse` reads such an answer, in which the
keys may be capitalised and either may be missing; `Ack.outcome` is the fate of the event: only code
zero accepts it. `Ack.interpret` does both.
-/

namespace QueryAudit

/-- The collector's answer to an event. -/
structure Ack where
  code : Int64 := 0
  text : String := ""
deriving DecidableEq

namespace Ack

/-- The fields of an answer in JSON, each under two spellings. -/
def shape : Json.Shape Ack where
  title := "struct CollectorAck"
  fields := [
    ⟨"Code", ["code"], .integer fun n a => { a with code := n }⟩,
    ⟨"Text", ["text"], .text fun s a => { a with text := s }⟩]
  initial := {}

/-- The answer that a body holds. -/
def parse (body : Bytes) : Outcome Ack := (shape.decode body).mapError .unreadableAck

/-- The fate of the event: accepted by code zero, otherwise refused with the answer's own words. -/
def outcome (a : Ack) : Outcome Unit :=
  if a.code = 0 then .ok () else .error (.rejected a.code a.text)

/-- The fate of the event, from the body of the answer. -/
def interpret (body : Bytes) : Outcome Unit := do (← parse body).outcome

end Ack

end QueryAudit
