import QueryAudit.Settings
import QueryAudit.Toml.Complaint
import QueryAudit.Toml.Document
/-!
# Settings in files

A configuration file is a TOML document with a table `splunk` and a table `log`. Whatever else it holds
is passed over. `Settings.ofEntries` reads the settings of a document, `Settings.load` those of a file.
A value of the wrong kind is refused, never converted.
-/

namespace QueryAudit.Settings

open Toml

/-- Settings, or what is wrong with the document. -/
abbrev Reading (α : Type) := Except Complaint α

/-- Where a value stands: its own text, or else its key's. -/
def placeOf (key : Key) (node : Node) : Span := node.span?.getD key.span

/-- A value of the wrong kind. -/
def refuse {α : Type} (node : Node) (expected : String) (span : Span) : Reading α :=
  .error ⟨.wrongType node.found expected, span⟩

/-! ## The table of the collector -/

/-- What messages call the table. -/
def collectorTitle : String := "struct SplunkSection"

/-- Key of the time to wait. -/
def timeoutKey : String := "timeout_secs"

/-- A number of seconds. -/
def readTimeout (key : Key) (node : Node) : Reading UInt64 :=
  match node with
  | .scalar (.integer n) span =>
    if n < 0 then .error ⟨.wrongValue (.integer n) "u64", span⟩ else .ok (UInt64.ofNat n.toNat)
  | node => refuse node "u64" (placeOf key node)

/-- The time to wait, if the table gives it. -/
def readTimeouts (es : Entries) : Reading (Option UInt64) :=
  es.foldlM (fun t (key, node) =>
    if key.name = timeoutKey then (readTimeout key node).map some else .ok t) none

/-- The fields of the deployment, in the order of the table. A field of the wrong kind is blamed on the
table as a whole. -/
def readFields (span : Span) (es : Entries) : Reading Deployment :=
  es.foldlM (fun (d : Deployment) (key, node) =>
    match Deployment.Field.ofKey? key.name with
    | none => .ok d
    | some f =>
      match node with
      | .scalar (.text s) _ => .ok (d.set f s)
      | node => refuse node "a string" span) {}

/-- The table of the collector. A point in time counts as a table without any of its keys. -/
def readCollector (key : Key) (node : Node) : Reading (Deployment × Option UInt64) :=
  match node with
  | .table _ _ es => do
    let timeout ← readTimeouts es
    let deployment ← readFields (placeOf key node) es
    return (deployment, timeout)
  | .scalar .datetime _ => .ok ({}, none)
  | node => refuse node collectorTitle (placeOf key node)

/-! ## The table of the log -/

/-- What messages call the table. -/
def logTitle : String := "struct LogSection"

/-- One of several words. A table or array may name it too, if nothing is behind the name. `outer` is
where it stands if it has no text of its own. -/
def readWord {α : Type} (words : List (String × α)) (outer : Span) (node : Node) : Reading α :=
  let span := node.span?.getD outer
  let known (name : String) (at_ : Span) : Reading α :=
    match words.lookup name with
    | some a => .ok a
    | none => .error ⟨.unknownVariant name (words.map (·.1)), at_⟩
  match node with
  | .scalar (.text s) _ => known s span
  | .table _ _ [] => .error ⟨.noElement, span⟩
  | .table _ _ [(key, value)] => do
    let a ← known key.name key.span
    let inner := value.span?.getD span
    match value with
    | .array [] _ => return a
    | .tables [] => return a
    | .table _ _ [] => return a
    | .array .. => throw ⟨.emptyArrayExpected, inner⟩
    | .tables _ => throw ⟨.emptyArrayExpected, inner⟩
    | .table .. => throw ⟨.emptyTableExpected, inner⟩
    | value => throw ⟨.tableExpected value.kind, inner⟩
  | .table .. => .error ⟨.manyElements, span⟩
  | _ => .error ⟨.textOrTableExpected, span⟩

/-- A log level by its name. -/
def readLevel (outer : Span) (node : Node) : Reading Log.Level :=
  readWord (Log.Level.all.map fun l => (l.name, l)) outer node

/-- A log format by its name. -/
def readFormat (outer : Span) (node : Node) : Reading Log.Format :=
  readWord (Log.Format.all.map fun f => (f.name, f)) outer node

/-- Level and format by their keys. -/
def readLogTable (es : Entries) : Reading (Log.Level × Log.Format) :=
  es.foldlM (fun (level, format) (key, node) =>
    if key.name = "level" then do return (← readLevel key.span node, format)
    else if key.name = "format" then do return (level, ← readFormat key.span node)
    else .ok (level, format)) (Log.Level.warn, Log.Format.text)

/-- Level and format by their places. -/
def readLogItems (outer : Span) (items : List Node) : Reading (Log.Level × Log.Format) :=
  match items with
  | [] => .ok (.warn, .text)
  | [level] => do return (← readLevel outer level, .text)
  | level :: format :: _ => do return (← readLevel outer level, ← readFormat outer format)

/-- The table of the log. -/
def readLog (key : Key) (node : Node) : Reading (Log.Level × Log.Format) :=
  match node with
  | .table _ _ es => readLogTable es
  | .array items span => readLogItems span items
  | .tables elements => readLogItems (placeOf key node) elements
  | .scalar .datetime _ => .ok (.warn, .text)
  | node => refuse node logTitle (placeOf key node)

/-! ## Documents and files -/

/-- Settings with what one entry of a document says. -/
def readEntry (s : Settings) : Key × Node → Reading Settings
  | (key, node) =>
    if key.name = "splunk" then do
      let (deployment, timeout) ← readCollector key node
      return { s with deployment, timeout }
    else if key.name = "log" then do
      let (level, format) ← readLog key node
      return { s with level, format }
    else .ok s

/-- The settings of a document. -/
def ofEntries (es : Entries) : Reading Settings := es.foldlM readEntry {}

/-- The settings of a text. Complaints show its path. -/
def ofText (path : String) (text : List Char) : Outcome Settings :=
  match Document.parse? text with
  | none => .error (.unparsedConfig path text)
  | some es =>
    match ofEntries es with
    | .error c => .error (.invalidConfig ("Failed to parse " ++ path ++ ": " ++ c.render text))
    | .ok s => .ok s

/-- The settings of a file, which must be there. -/
def load (files : FileTree) (path : Bytes) : Outcome Settings :=
  match files.find? path with
  | none => .error (.invalidConfig ("config file not found: " ++ shown path))
  | some .directory => .error (.file .isDirectory)
  | some (.file content) =>
    match Utf8.decode? content with
    | none => .error (.file .notText)
    | some text => do
      let s ← ofText (shown path) text
      s.validate
      return s

/-- A name behind a directory. -/
def join (directory : Bytes) (name : String) : Bytes :=
  (if directory.getLast? = some 0x2F then directory else directory ++ [0x2F]) ++ octets name

/-- The directory for configuration files: the one that a variable gives as an absolute path, or else one
in the home directory. -/
def configDirectory? (e : Environment) : Option Bytes :=
  (e.get? "XDG_CONFIG_HOME").filter FileTree.isAbsolute <|> e.home?.map (join · ".config")

/-- Where the file is looked for when none is named. -/
def defaultPath? (e : Environment) : Option Bytes :=
  (configDirectory? e).map fun directory => join (join directory "gabi") "config.toml"

/-- The settings of the file that is named, or else of the default file if it is there, or else the
default settings. -/
def resolve (files : FileTree) (e : Environment) (path : Option Bytes) : Outcome Settings :=
  match path with
  | some path => load files path
  | none =>
    match defaultPath? e with
    | some path => if files.has path then load files path else .ok {}
    | none => .ok {}

end QueryAudit.Settings
