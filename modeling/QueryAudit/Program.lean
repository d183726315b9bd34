import QueryAudit.CommandLine.Help
import QueryAudit.CommandLine.Reading
import QueryAudit.Console
import QueryAudit.Log.Filter
import QueryAudit.Settings.Layers
import QueryAudit.Waiting
/-!
# The program

`Program.run` is a run of the program from its arguments to its exit, as a function of all it can see:
files, variables, the time and the collector. The program exits with zero when it has done what it was
asked for, with one when that failed, and with two when it did not understand what it was asked for. If
its client breaks down, that ends the program as well, with an exit code of its own.
-/

namespace QueryAudit.Program

/-- Words that are not the program's own. -/
structure Wording where
  /-- What is wrong with a text that is no TOML. -/
  syntaxFault : List Char → String
  /-- The report on a client that broke down with some words. -/
  breakdown : String → String

/-- All that a run can see besides its arguments. -/
structure Surroundings where
  files : FileTree
  environment : Environment
  /-- Seconds since the epoch. -/
  now : Int64
  collector : Collector
  course : Course
  wording : Wording

/-- All that can be seen of a run. -/
structure Run where
  exitCode : Nat
  stdout : String
  stderr : String
  /-- Log messages in order, without their times. -/
  logs : List Log.Line
  /-- What the collector received. -/
  received : List Received
  /-- What went wrong, if the command failed. -/
  failure : Option Failure

/-- The level that is logged from: a switch wins over the settings. -/
def level (i : CommandLine.Invocation) (s : Settings) : Log.Level :=
  if i.verbose then .debug else if i.quiet then .error else s.level

/-- The filter for log messages: a variable that holds a filter wins over the level. -/
def filter (e : Environment) (l : Log.Level) : Log.Filter :=
  ((e.text? "RUST_LOG").bind Log.Filter.read?).getD (Log.Filter.ofLevel l)

/-- The log of messages, as far as it is let through. -/
def logged (e : Environment) (i : CommandLine.Invocation) (s : Settings) (events : List Log.Event) :
    List Log.Line :=
  (events.filter (filter e (level i s)).admits).map
    (Log.Line.ofEvent s.format (Console.isLogColoured e))

/-- A run that did what it was asked for. -/
def done (stdout : String) : Run := ⟨0, stdout, "", [], [], none⟩

/-- A run that failed. -/
def failed (w : Surroundings) (f : Failure) : Run :=
  ⟨1, "", Console.error (Console.isColoured w.environment) ("Error: " ++ f.message w.wording.syntaxFault), [], [],
    some f⟩

/-- What a client says that breaks down. -/
def breakdownMessage : String := "overflow when adding duration to instant"

/-- A run that its client has ended. -/
def brokenDown (w : Surroundings) : Run := ⟨101, "", w.wording.breakdown breakdownMessage, [], [], none⟩

/-- What is said of a record that the collector has accepted. -/
def acceptedMessage (r : Record) (d : Deployment) : String :=
  "Audit event for '" ++ r.user ++ "' accepted by " ++ d.endpoint

/-- The run of an attempt to deliver a record. -/
def ofAttempt (w : Surroundings) (i : CommandLine.Invocation) (s : Settings) (r : Record) (a : Attempt) : Run :=
  let run :=
    match a.outcome with
    | .error f => failed w f
    | .ok () =>
      done (if i.quiet then "" else
        Console.success (Console.isColoured w.environment) (acceptedMessage r s.deployment))
  { run with logs := logged w.environment i s (Log.Event.ofAttempt r s.deployment a), received := a.received }

/-- The run of a delivery. A client that breaks down has got no further than to say that a write starts. -/
def ofDelivery (w : Surroundings) (i : CommandLine.Invocation) (s : Settings) (r : Record) : Delivery → Run
  | .attempt a => ofAttempt w i s r a
  | .breakdown received =>
    { brokenDown w with logs := logged w.environment i s [Log.Event.writing r s.deployment], received }

/-- The command `write`: one record is delivered, by a client that waits as long as the settings say. -/
def write (w : Surroundings) (i : CommandLine.Invocation) (s : Settings) (r : Record) : Run :=
  ofDelivery w i s r ((Sink.make s.deployment .custom []).deliver w.course s.seconds r w.collector)

/-- The command that a list of arguments asks for. -/
def perform (w : Surroundings) (i : CommandLine.Invocation) : Run :=
  match Settings.gather w.files w.environment i with
  | .error f => failed w f
  | .ok s =>
    match i.command with
    | .write r => write w i s (r.record w.now)
    | .envelope r => done ((Envelope.ofRecord (r.record w.now) s.deployment).toText ++ "\n")
    | .config => done (Console.settings (Console.isColoured w.environment) s)

/-- What is said of arguments that cannot be understood; without any the help is shown instead. -/
def complaint (e : Environment) : CommandLine.Misuse → String
  | .nothingGiven => CommandLine.Page.program.text (Console.isHelpColoured e)
  | why => "error: " ++ why.message ++ "\n\nFor more information, try '--help'.\n"

/-- The answer to arguments that lead to no command. -/
def refuse (e : Environment) (r : CommandLine.Refusal) : Run :=
  let run :=
    match r with
    | .misuse why => { done "" with stderr := complaint e why }
    | .help page => done (page.text (Console.isHelpColoured e))
    | .version => done (Product.versionLine ++ "\n")
  { run with exitCode := r.exitCode }

/-- A run of the program. -/
def run (w : Surroundings) (args : List String) : Run :=
  match CommandLine.read args with
  | .error r => refuse w.environment r
  | .ok i => perform w i

/-! ## Runs by what is asked for -/

open CommandLine

theorem run_of_read {args : List String} {i : Invocation} (h : read args = .ok i) (w : Surroundings) :
    run w args = perform w i := by
  simp only [run, h]

variable {w : Surroundings} {i : Invocation} {s : Settings} {r : RecordOptions}

theorem perform_of_not_gather {f : Failure} (h : Settings.gather w.files w.environment i = .error f) :
    perform w i = failed w f := by
  simp only [perform, h]

theorem perform_envelope (h : Settings.gather w.files w.environment i = .ok s) (hi : i.command = .envelope r) :
    perform w i = done ((Envelope.ofRecord (r.record w.now) s.deployment).toText ++ "\n") := by
  simp only [perform, h, hi]

theorem perform_write (h : Settings.gather w.files w.environment i = .ok s) (hi : i.command = .write r) :
    perform w i = write w i s (r.record w.now) := by
  simp only [perform, h, hi]

theorem perform_config (h : Settings.gather w.files w.environment i = .ok s) (hi : i.command = .config) :
    perform w i = done (Console.settings (Console.isColoured w.environment) s) := by
  simp only [perform, h, hi]

end QueryAudit.Program
