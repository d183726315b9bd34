import QueryAudit.CommandLine.Flag
/-!
# Reading the command line

`read` turns a list of arguments into an `Invocation`. Arguments are read at two levels: those before
the command and those behind it. At each level an option is given at most once; an option that every
command has may be given at both, and then the one behind the command counts.

An argument that starts with a hyphen is always an option, also where a value is expected: such a value
is only taken when it is attached with `=`.
-/

namespace QueryAudit.CommandLine

/-- Where arguments are read: before the command or behind it. -/
inductive Place
  | outside
  | inside (command : CommandName)
deriving DecidableEq

namespace Place

/-- The options with a value that can be given at a place. -/
def valued : Place → List Valued
  | outside => Valued.everywhere
  | inside c => (if c.takesRecord then Valued.ofRecord else []) ++ Valued.everywhere

/-- The switches that can be given at a place. -/
def switches : Place → List Switch
  | outside => [.verbose, .quiet, .help, .version]
  | inside _ => [.verbose, .quiet, .help]

/-- The page of help for a place. -/
def page : Place → Page
  | outside => .program
  | inside c => .command c

end Place

/-- What has been given at one level. -/
structure Level where
  /-- Options with their values, the last first. -/
  values : List (Valued × String) := []
  /-- Switches, the last first. -/
  switches : List Switch := []
  /-- The option whose value is the next argument. -/
  pending : Option Valued := none
  /-- A lone `--` has ended the options. -/
  ended : Bool := false
deriving DecidableEq

namespace Level

/-- The value of an option. -/
def get? (l : Level) (o : Valued) : Option String := l.values.lookup o

/-- Whether a switch is set. -/
def has (l : Level) (s : Switch) : Bool := l.switches.contains s

/-- Nothing was given. -/
def isEmpty (l : Level) : Bool := l.values.isEmpty && l.switches.isEmpty

/-- An option gets its value. -/
def put (l : Level) (o : Valued) (value : String) : Except Refusal Level :=
  if (l.get? o).isSome then .error (.misuse .conflict)
  else if o.accepts value then .ok { l with values := (o, value) :: l.values, pending := none }
  else .error (.misuse .valueInvalid)

/-- No option may be waiting for its value any more. -/
def settle (l : Level) : Except Refusal Level :=
  match l.pending with
  | some _ => .error (.misuse .valueMissing)
  | none => .ok l

/-- A switch is given. -/
def turnOn (l : Level) (place : Place) (s : Switch) : Except Refusal Level := do
  let l ← l.settle
  match s with
  | .help => .error (.help place.page)
  | .version => .error .version
  | _ =>
    if l.has s then .error (.misuse .conflict)
    else .ok { l with switches := s :: l.switches }

/-- An argument `--name` or `--name=value`, without its hyphens. -/
def long (l : Level) (place : Place) (s : List Char) : Except Refusal Level :=
  let name := String.ofList (s.takeWhile (· != '='))
  let attached :=
    match s.dropWhile (· != '=') with
    | [] => none
    | _ :: value => some (String.ofList value)
  match place.valued.find? (·.name == name), place.switches.find? (·.name == name), attached with
  | some o, _, some value => do (← l.settle).put o value
  | some o, _, none => do
    let l ← l.settle
    .ok { l with pending := some o }
  | none, some _, some _ => .error (.misuse .valueUnwanted)
  | none, some s, none => l.turnOn place s
  | none, none, _ => .error (.misuse .unknownArgument)

/-- An argument of letters, without its hyphen: each letter is a switch. -/
def short (l : Level) (place : Place) : List Char → Except Refusal Level
  | [] => .ok l
  | c :: cs =>
    match place.switches.find? (·.letter == c) with
    | none => .error (.misuse .unknownArgument)
    | some s =>
      match l.turnOn place s with
      | .error e => .error e
      | .ok l => l.short place cs

/-- An argument that is no option and no value. -/
def stray (l : Level) (place : Place) (arg : String) : Misuse :=
  match place with
  | .inside _ => .unknownArgument
  | .outside =>
    if l.ended && (arg == "help" || (CommandName.ofText? arg).isSome) then .unknownArgument
    else .unknownCommand

/-- An argument that is no option: the value of the option that waits for one. -/
def plain (l : Level) (place : Place) (arg : String) : Except Refusal Level :=
  match l.pending with
  | some o => l.put o arg
  | none => .error (.misuse (l.stray place arg))

/-- One argument that is not the name of a command. -/
def argument (l : Level) (place : Place) (arg : String) : Except Refusal Level :=
  if l.ended then .error (.misuse (l.stray place arg))
  else
    match arg.toList with
    | ['-', '-'] => .ok { l with ended := true }
    | '-' :: '-' :: s => l.long place s
    | ['-'] => l.plain place arg
    | '-' :: s => l.short place s
    | _ => l.plain place arg

/-- The end of a level that has no complaint about a missing command. -/
def finish (l : Level) : Except Refusal Level :=
  if l.has .verbose && l.has .quiet then .error (.misuse .conflict) else .ok l

end Level

/-- The arguments behind a command. -/
def readInside (command : CommandName) (l : Level) : List String → Except Refusal Level
  | [] => do (← l.settle).finish
  | arg :: args =>
    match l.argument (.inside command) arg with
    | .error e => .error e
    | .ok l => readInside command l args

/-- The page that `help` is asked for: the names behind it must be those of commands. -/
def readHelp : List String → Refusal
  | [] => .help .program
  | [name] =>
    if name = "help" then .help .help
    else
      match CommandName.ofText? name with
      | some c => .help (.command c)
      | none => .misuse .unknownCommand
  | _ => .misuse .unknownCommand

/-- What both levels ask for together. -/
def assemble (command : CommandName) (outer inner : Level) : Invocation :=
  let get? (o : Valued) : Option String := inner.get? o <|> outer.get? o
  let record : RecordOptions :=
    ⟨(get? .query).getD "", (get? .user).getD "", (get? .timestamp).bind readTimestamp?⟩
  { command :=
      match command with
      | .write => .write record
      | .envelope => .envelope record
      | .config => .config
    config := get? .config
    values := fun f => get? (.field f)
    timeout := (get? .timeout).bind readSeconds?
    verbose := inner.has .verbose || outer.has .verbose
    quiet := inner.has .quiet || outer.has .quiet }

/-- The arguments from somewhere before the command on. -/
def readOutside (l : Level) : List String → Except Refusal Invocation
  | [] => do
    let l ← l.settle
    .error (.misuse (if l.isEmpty then .nothingGiven else .commandMissing))
  | arg :: args =>
    if ¬l.ended ∧ l.pending = none ∧ arg = "help" then .error (readHelp args)
    else
      match if l.ended || l.pending.isSome then none else CommandName.ofText? arg with
      | some command => do
        let inner ← readInside command {} args
        let outer ← l.finish
        .ok (assemble command outer inner)
      | none =>
        match l.argument .outside arg with
        | .error e => .error e
        | .ok l => readOutside l args

/-- What a list of arguments, without the name of the program, asks for. -/
def read (args : List String) : Except Refusal Invocation := readOutside {} args

end QueryAudit.CommandLine
