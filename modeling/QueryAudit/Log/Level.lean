/-!
# Log levels

A message has a level, and a `Threshold` lets messages through from some level of importance on, or
none at all.
-/

namespace QueryAudit.Log

/-- How important a message is, the most important first. -/
inductive Level
  | error
  | warn
  | info
  | debug
  | trace
deriving DecidableEq

namespace Level

/-- The levels, the most important first. -/
def all : List Level := [error, warn, info, debug, trace]

/-- The rank of a level: the more important, the lower. -/
def rank : Level → Nat
  | error => 1
  | warn => 2
  | info => 3
  | debug => 4
  | trace => 5

/-- The name of a level, as configuration files give it. -/
def name : Level → String
  | error => "error"
  | warn => "warn"
  | info => "info"
  | debug => "debug"
  | trace => "trace"

/-- The name of a level, as messages give it. -/
def label : Level → String
  | error => "ERROR"
  | warn => "WARN"
  | info => "INFO"
  | debug => "DEBUG"
  | trace => "TRACE"

end Level

/-- How much is let through: nothing, or messages up to the rank of a level. -/
inductive Threshold
  | off
  | upTo (level : Level)
deriving DecidableEq

/-- Whether a message of a level is let through. -/
def Threshold.admits : Threshold → Level → Bool
  | off, _ => false
  | upTo greatest, level => decide (level.rank ≤ greatest.rank)

/-- How messages are written. -/
inductive Format
  | text
  | json
deriving DecidableEq

namespace Format

/-- The formats. -/
def all : List Format := [text, json]

/-- The name of a format, as configuration files give it. -/
def name : Format → String
  | text => "text"
  | json => "json"

end Format

end QueryAudit.Log
