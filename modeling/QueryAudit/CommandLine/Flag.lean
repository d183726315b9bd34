import QueryAudit.Sink
/-!
# Options of the command line

The program has three commands, options that take a value and switches that take none. What a list of
arguments asks for is an `Invocation`; a list that asks for nothing the program can do is answered with
a `Refusal`, which may also be the help or version text that was asked for.
-/

namespace QueryAudit.CommandLine

/-- The names of the commands. -/
inductive CommandName
  | write
  | envelope
  | config
deriving DecidableEq

namespace CommandName

/-- The commands, in the order of the help. -/
def all : List CommandName := [write, envelope, config]

/-- The word that names a command. -/
def text : CommandName → String
  | write => "write"
  | envelope => "envelope"
  | config => "config"

/-- The command of a name. -/
def ofText? (s : String) : Option CommandName := all.find? (·.text == s)

/-- The commands that are about one record. -/
def takesRecord : CommandName → Bool
  | config => false
  | _ => true

end CommandName

/-- Options that take a value. -/
inductive Valued
  | config
  | field (f : Deployment.Field)
  | timeout
  | query
  | user
  | timestamp
deriving DecidableEq

namespace Valued

/-- The options that every command has, which may also stand before the command. -/
def everywhere : List Valued := config :: Deployment.Field.all.map field ++ [timeout]

/-- The options of the commands that are about a record. -/
def ofRecord : List Valued := [query, user, timestamp]

/-- The name of an option, without its hyphens. -/
def name : Valued → String
  | config => "config"
  | field f => f.key
  | timeout => "timeout"
  | query => "query"
  | user => "user"
  | timestamp => "timestamp"

end Valued

/-- Options that take no value. -/
inductive Switch
  | verbose
  | quiet
  | help
  | version
deriving DecidableEq

namespace Switch

/-- The name of a switch, without its hyphens. -/
def name : Switch → String
  | verbose => "verbose"
  | quiet => "quiet"
  | help => "help"
  | version => "version"

/-- The letter of a switch. -/
def letter : Switch → Char
  | verbose => 'v'
  | quiet => 'q'
  | help => 'h'
  | version => 'V'

end Switch

/-! ## Numbers -/

/-- The digits of a number. -/
def readNat? (s : List Char) : Option Nat := Numeral.ofChars? 10 s

/-- A number of seconds: digits, with a plus sign in front perhaps, within 64 bits. -/
def readSeconds? (s : String) : Option UInt64 :=
  let digits (ds : List Char) : Option UInt64 := (readNat? ds).bind Numeral.uint64?
  match s.toList with
  | '+' :: ds => digits ds
  | ds => digits ds

/-- A point in time: digits with a sign in front perhaps, within 64 bits. -/
def readTimestamp? (s : String) : Option Int64 :=
  let digits (sign : Int) (ds : List Char) : Option Int64 :=
    (readNat? ds).bind fun n => Numeral.int64? (sign * n)
  match s.toList with
  | '+' :: ds => digits 1 ds
  | '-' :: ds => digits (-1) ds
  | ds => digits 1 ds

/-- Whether an option takes this value. -/
def Valued.accepts : Valued → String → Bool
  | timeout, s => (readSeconds? s).isSome
  | timestamp, s => (readTimestamp? s).isSome
  | _, _ => true

/-! ## What is asked for -/

/-- A record as it is given: without a time it is stamped when it is used. -/
structure RecordOptions where
  query : String
  user : String
  timestamp : Option Int64
deriving DecidableEq

/-- A command with what it is about. -/
inductive Command
  | write (record : RecordOptions)
  | envelope (record : RecordOptions)
  | config
deriving DecidableEq

/-- What a list of arguments asks for. -/
structure Invocation where
  command : Command
  /-- The configuration file. -/
  config : Option String
  /-- Fields of the deployment. -/
  values : Values
  /-- Seconds to wait for the collector. -/
  timeout : Option UInt64
  verbose : Bool
  quiet : Bool

/-- The record that the options give, at a time. -/
def RecordOptions.record (o : RecordOptions) (now : Int64) : Record :=
  ⟨o.query, o.user, o.timestamp.getD now⟩

/-! ## What is refused -/

/-- Why a list of arguments is refused. -/
inductive Misuse
  | unknownCommand
  | unknownArgument
  | valueMissing
  | valueInvalid
  | valueUnwanted
  | conflict
  | commandMissing
  | nothingGiven
deriving DecidableEq

/-- The wording of what cannot be understood. -/
def Misuse.message : Misuse → String
  | unknownCommand => "unrecognized subcommand"
  | unknownArgument => "unexpected argument"
  | valueMissing => "a value is required for an argument"
  | valueInvalid => "invalid value for an argument"
  | valueUnwanted => "unexpected value for an argument"
  | conflict => "an argument cannot be used multiple times"
  | commandMissing | nothingGiven => "a subcommand is required"

/-- The pages of help. -/
inductive Page
  | program
  | command (name : CommandName)
  | help
deriving DecidableEq

/-- Why a list of arguments leads to no command. -/
inductive Refusal
  | misuse (why : Misuse)
  | help (page : Page)
  | version
deriving DecidableEq

/-- Status to exit with: help and version are what was asked for, misuse is not. -/
def Refusal.exitCode : Refusal → Nat
  | misuse _ => 2
  | help _ => 0
  | version => 0

end QueryAudit.CommandLine
