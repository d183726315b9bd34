import QueryAudit.FileTree
import QueryAudit.Settings
/-!
# What the user sees

The lines that the program writes to its outputs. Marks and values are set off by colour where that is
asked for; without colour the same lines are plain text.
-/

namespace QueryAudit.Console

/-- How a piece of text is set off. -/
inductive Style
  | green
  | yellow
  | red
  | cyan
  | dimmed
  | bold

/-- The code of a style. -/
def Style.code : Style → List Char
  | green => ['\x1b', '[', '3', '2', 'm']
  | yellow => ['\x1b', '[', '3', '3', 'm']
  | red => ['\x1b', '[', '3', '1', 'm']
  | cyan => ['\x1b', '[', '3', '6', 'm']
  | dimmed => ['\x1b', '[', '2', 'm']
  | bold => ['\x1b', '[', '1', 'm']

/-- The code that ends every style. -/
def endCode : List Char := ['\x1b', '[', '0', 'm']

/-- A text in which every end of a style is followed by a style again. -/
def resume (code : List Char) : List Char → List Char
  | '\x1b' :: '[' :: '0' :: 'm' :: rest => endCode ++ code ++ resume code rest
  | c :: rest => c :: resume code rest
  | [] => []

/-- A text in a style. -/
def painted (coloured : Bool) (style : Style) (s : String) : String :=
  if coloured then String.ofList (style.code ++ resume style.code s.toList ++ endCode) else s

/-- Whether the outputs are coloured: they are no terminal, so only when a variable insists. -/
def isColoured (e : Environment) : Bool := (e.text? "CLICOLOR_FORCE").any (· != "0")

/-- Whether help is coloured. -/
def isHelpColoured (e : Environment) : Bool :=
  let given (name : String) : Bool := (e.get? name).any (!·.isEmpty)
  !given "NO_COLOR" && given "CLICOLOR_FORCE"

/-- Whether log messages are coloured: they are, unless a variable forbids it. -/
def isLogColoured (e : Environment) : Bool := !(e.text? "NO_COLOR").any (· != "")

/-- A line that reports success. -/
def success (coloured : Bool) (message : String) : String :=
  "  " ++ painted coloured .green "✓" ++ " " ++ message ++ "\n"

/-- A line that warns. -/
def warning (coloured : Bool) (message : String) : String :=
  "  " ++ painted coloured .yellow "⚠" ++ " " ++ message ++ "\n"

/-- A line that reports an error. -/
def error (coloured : Bool) (message : String) : String :=
  "  " ++ painted coloured .red "✗" ++ " " ++ message ++ "\n"

/-- A heading, with an empty line before it. -/
def heading (coloured : Bool) (message : String) : String :=
  "\n" ++ painted coloured .bold message ++ "\n"

/-- A label and its value in columns. An empty value is shown as a hyphen. -/
def row (coloured : Bool) (label value : String) : String :=
  let shown := if value = "" then painted coloured .dimmed "-" else painted coloured .cyan value
  "  " ++ label ++ String.ofList (List.replicate (10 - label.length) ' ') ++ " " ++ shown ++ "\n"

/-- The settings of the collector. The token is never shown. -/
def settings (coloured : Bool) (s : Settings) : String :=
  let d := s.deployment
  let rows := [("Endpoint", d.endpoint), ("Token", d.redactedToken), ("Index", d.index),
    ("Host", d.host), ("Namespace", d.podNamespace), ("Pod", d.pod),
    ("Timeout", String.ofList (Numeral.decimal s.seconds.toNat) ++ "s")]
  heading coloured "gabi-audit config"
    ++ String.join (rows.map fun (label, value) => row coloured label value)
    ++ (if d.endpoint = "" then
        warning coloured "No collector endpoint set: writes will fail to send" else "")
    ++ (if d.token = "" then
        warning coloured "No token set: requests go out unauthenticated" else "")

end QueryAudit.Console
