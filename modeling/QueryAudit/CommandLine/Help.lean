import QueryAudit.CommandLine.Flag
/-!
# Help texts

A page of help is laid out from the same names that the command line is read with. Its parts are kept
apart by kind, so that headings and words to be typed can be set off on a terminal.
-/

namespace QueryAudit.CommandLine

/-- A piece of a page. -/
inductive Piece
  | plain (s : String)
  | heading (s : String)
  /-- A word to be typed as it stands. -/
  | typed (s : String)

/-- Text between two codes for the terminal. -/
def Piece.render (coloured : Bool) : Piece → String
  | plain s => s
  | heading s => if coloured then "\x1b[1m\x1b[4m" ++ s ++ "\x1b[0m" else s
  | typed s => if coloured then "\x1b[1m" ++ s ++ "\x1b[0m" else s

/-- What a command does. -/
def CommandName.about : CommandName → String
  | write => "Send one audit event to the collector"
  | envelope => "Print the event body " ++ Text.inBackquotes "write" ++ " would send, without sending it"
  | config => "Show the resolved collector configuration"

/-- What an option with a value is for. -/
def Valued.about : Valued → String
  | config => "Path to the config file (default: ~/.config/gabi/config.toml)"
  | field .endpoint => "Collector URL"
  | field .token => "HEC token"
  | field .index => "Target index"
  | field .host => "Host reported with each event"
  | field .podNamespace => "Namespace reported with each event"
  | field .pod => "Pod reported with each event"
  | timeout => "Request timeout in seconds"
  | query => "Text of the executed statement [default: ]"
  | user => "User who ran the statement [default: ]"
  | timestamp => "Epoch seconds of execution (default: now)"

/-- What a switch is for. -/
def Switch.about : Switch → String
  | verbose => "Verbose output (debug logging)"
  | quiet => "Quiet mode: only show errors"
  | help => "Print help"
  | version => "Print version"

/-- What the program does. -/
def about : String := "Deliver query audit events to a Splunk HTTP Event Collector."

/-- What the command `help` does. -/
def helpAbout : String := "Print this message or the help of the given subcommand(s)"

namespace Page

/-- A row: its first column, how wide that is, and what stands in the second. -/
def row (first : List Piece) (width column : Nat) (second : String) : List Piece :=
  .plain "  " :: first
    ++ [.plain (String.ofList (List.replicate (column - width) ' ') ++ "  " ++ second ++ "\n")]

/-- Width of the first column of options. -/
def optionColumn : Nat := 27

/-- Width of the first column of commands. -/
def commandColumn : Nat := 8

/-- The row of an option with a value. -/
def valuedRow (o : Valued) : List Piece :=
  let placeholder := " <" ++ o.name.map Char.toUpper ++ ">"
  let typed := "--" ++ o.name
  row [.plain "    ", .typed typed, .plain placeholder] (4 + typed.length + placeholder.length)
    optionColumn o.about

/-- The row of a switch. -/
def switchRow (s : Switch) : List Piece :=
  let long := "--" ++ s.name
  row [.typed ("-" ++ s.letter.toString), .plain ", ", .typed long] (4 + long.length) optionColumn
    s.about

/-- The row of a command. -/
def commandRow (name about : String) : List Piece :=
  row [.typed name] name.length commandColumn about

/-- The line that shows how to call something. -/
def usage (call rest : String) : List Piece :=
  [.plain "\n\n", .heading "Usage:", .plain " ", .typed call, .plain (rest ++ "\n\n")]

/-- The rows of options. -/
def options (valued : List Valued) (switches : List Switch) : List Piece :=
  .heading "Options:" :: .plain "\n" :: valued.flatMap valuedRow ++ switches.flatMap switchRow

/-- The options in the order of the page of a command: those of the record are spread among those that
every command has. -/
def recordOrder : List Valued :=
  [.config, .query, .field .endpoint, .user, .timestamp]
    ++ [.field .token, .field .index, .field .host, .field .podNamespace, .field .pod, .timeout]

/-- The pieces of a page. -/
def pieces : Page → List Piece
  | .program =>
    .plain about :: usage Product.command " [OPTIONS] <COMMAND>"
      ++ [.heading "Commands:", .plain "\n"]
      ++ CommandName.all.flatMap (fun c => commandRow c.text c.about)
      ++ commandRow "help" helpAbout ++ [.plain "\n"]
      ++ options Valued.everywhere [.verbose, .quiet, .help, .version]
  | .command c =>
    .plain c.about :: usage (Product.command ++ " " ++ c.text) " [OPTIONS]"
      ++ options (if c.takesRecord then recordOrder else Valued.everywhere) [.verbose, .quiet, .help]
  | .help =>
    .plain helpAbout :: usage (Product.command ++ " help") " [COMMAND]..."
      ++ .heading "Arguments:" :: .plain "\n"
      :: row [.plain "[COMMAND]..."] 12 12 "Print help for the subcommand(s)"

/-- The text of a page. -/
def text (coloured : Bool) (p : Page) : String := String.join (p.pieces.map (Piece.render coloured))

end Page

end QueryAudit.CommandLine
