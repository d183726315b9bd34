import QueryAudit.CommandLine.Flag
import QueryAudit.Settings.File
/-!
# Layers of settings

Settings are put together from a file, the variables of the environment and the options of the command
line; of two that give the same field the later one counts. `Settings.gather` does this for a command,
`Settings.run` for any steps in any order. A step that fails leaves the settings as they were.
-/

namespace QueryAudit.Settings

/-- Variables laid over settings. -/
def applyEnvironment (s : Settings) (e : Environment) : Settings := s.overlay e.values

/-- The settings of a file under variables and options. -/
def layer (file : Settings) (e : Environment) (i : CommandLine.Invocation) : Settings :=
  let layered := (file.applyEnvironment e).overlay i.values
  { layered with timeout := i.timeout <|> layered.timeout }

/-- The settings that a command works with: file, then variables, then options. -/
def gather (files : FileTree) (e : Environment) (i : CommandLine.Invocation) : Outcome Settings := do
  let file ← resolve files e (i.config.map octets)
  let settings := file.layer e i
  settings.validate
  return settings

/-! ## Step by step -/

/-- A step on settings. -/
inductive Step
  /-- Start over from the defaults. -/
  | reset
  | load (path : Bytes)
  | resolve (path : Option Bytes)
  | environment (e : Environment)
  | values (values : Values)
  | timeout (seconds : Option UInt64)
  | validate

/-- The settings after a step. -/
def step (files : FileTree) (e : Environment) (s : Settings) : Step → Outcome Settings
  | .reset => .ok {}
  | .load path => load files path
  | .resolve path => resolve files e path
  | .environment vars => .ok (s.applyEnvironment vars)
  | .values values => .ok (s.overlay values)
  | .timeout seconds => .ok { s with timeout := seconds }
  | .validate => s.validate.map fun _ => s

/-- What each of a list of steps gives, from some settings on. -/
def run (files : FileTree) (e : Environment) (s : Settings) : List Step → List (Outcome Settings)
  | [] => []
  | st :: steps =>
    match step files e s st with
    | .ok next => .ok next :: run files e next steps
    | .error failure => .error failure :: run files e s steps

end QueryAudit.Settings
