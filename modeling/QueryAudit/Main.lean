import QueryAudit.Program
import Std.Time.Format
/-!
# Running the program

`main` looks at the machine for what a run may need, leaves all decisions to `Program.run`, and writes
what that answers. There is no network here: every collector is one that cannot be reached.
-/

namespace QueryAudit.Machine

/-- The variables that a run may look at. -/
def variableNames : List String :=
  Deployment.Field.all.map Settings.variableName
    ++ ["HOME", "XDG_CONFIG_HOME", "RUST_LOG", "NO_COLOR", "CLICOLOR_FORCE"]

/-- The variables of the machine. -/
def environment : IO Environment := do
  let entries ← variableNames.filterMapM fun name => do
    return (← IO.getEnv name).map fun value => (name, octets value)
  return { entries }

/-- What stands at a path of the machine. -/
def node? (path : String) : IO (Option FileNode) := do
  let place := (← IO.currentDir) / path
  if ← place.isDir then return some .directory
  if ← place.pathExists then return some (.file (← IO.FS.readBinFile place).toList)
  return none

/-- The part of the machine's files that a path leads through. -/
def files (path : Bytes) : IO FileTree := do
  let here := (FileTree.parts (octets (← IO.currentDir).toString)).filter (· ≠ [])
  let start := if FileTree.isAbsolute path then [] else here
  let parts := FileTree.parts path
  let entries ← (List.range (parts.length + 1)).filterMapM fun n => do
    let front := parts.take n
    return (← node? (shown ([0x2F].intercalate front))).map fun node => (front.foldl FileTree.follow start, node)
  return { entries, start := some here }

/-- The file that a run may read. -/
def configPath? (e : Environment) (args : List String) : Option Bytes :=
  match CommandLine.read args with
  | .ok i => i.config.map octets <|> Settings.defaultPath? e
  | .error _ => none

/-- Words for what is not worded here. -/
def wording : Program.Wording where
  syntaxFault _ := "TOML parse error\n"
  breakdown words := "the client broke down: " ++ words ++ "\n"

end QueryAudit.Machine

open QueryAudit in
/-- A run on the machine. -/
def main (args : List String) : IO UInt32 := do
  let environment ← Machine.environment
  let files ← Machine.files ((Machine.configPath? environment args).getD (octets "/"))
  let time ← Std.Time.Timestamp.now
  let now := Int64.ofInt time.toSecondsSinceUnixEpoch.val
  let course : Course := { start := ← IO.monoNanosNow }
  let run := Program.run ⟨files, environment, now, .unreachable, course, Machine.wording⟩ args
  let stamp := (Std.Time.DateTime.ofTimestamp time .UTC).format "uuuu-MM-dd'T'HH:mm:ss.SSSSSS'Z'"
  for line in run.logs do
    IO.eprintln (line.render (Console.isLogColoured environment) stamp)
  IO.print run.stdout
  IO.eprint run.stderr
  return run.exitCode.toUInt32
