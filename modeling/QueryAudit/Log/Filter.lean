import QueryAudit.Log.Event
import QueryAudit.Text.Cut
/-!
# Choosing among log messages

A `Filter` is a list of rules, written with commas between them: a level for everything, or a level for
the messages whose target starts with a name. Among the rules that are about a message the most specific
one decides; a rule given again takes the place of the first. Rules about spans read but concern no
message, because this program has no spans.
-/

namespace QueryAudit.Log

/-- A rule: which messages it is about, and how much of them it lets through. -/
structure Rule where
  /-- Start of the targets. -/
  target : Option String
  /-- Fields that a message must have. -/
  fields : List String
  threshold : Threshold
deriving DecidableEq

/-- Rules of which the most specific one decides. -/
abbrev Filter := List Rule

namespace Filter

/-! ## Reading -/

/-- A level by its name in letters of either case, or by its rank. -/
def readThreshold? (s : List Char) : Option Threshold :=
  let name := s.map Char.toLower
  let digits := match s with
    | '+' :: rest => rest
    | rest => rest
  match Numeral.ofChars? 10 digits with
  | some 0 => some .off
  | some n => (Level.all.find? (·.rank == n)).map .upTo
  | none =>
    if name = ['o', 'f', 'f'] then some .off
    else if name.isEmpty then some (.upTo .error)
    else (Level.all.find? (·.name.toList == name)).map .upTo

/-- A threshold behind an equals sign; none at all lets everything through. -/
def readLevel? (s : List Char) : Option Threshold :=
  if s.isEmpty then some (.upTo .trace) else readThreshold? s

/-- A character that a rule may start with. A letter beyond ASCII counts as one. -/
def startsRule (c : Char) : Bool :=
  c == '[' || c == '-' || c == ':' || c == '_' || c.isAlphanum || decide (0x80 ≤ c.toNat)

/-- What a rule says: a rule about messages, or one about spans alone. -/
inductive Reading
  | rule (r : Rule)
  | spansOnly

/-- The part of a rule between square brackets: whether it names a span or a value, and the names of the
fields. -/
def readSpan? (s : List Char) : Option (Bool × List String) :=
  let name := s.takeWhile (· != '{')
  match s.dropWhile (· != '{') with
  | [] => some (true, [])
  | _ :: inner =>
    match inner.dropWhile (· != '}') with
    | ['}'] =>
      let field := inner.takeWhile (· != '}')
      if field.isEmpty then none
      else
        some (!name.isEmpty || field.contains '=', [String.ofList (field.takeWhile (· != '='))])
    | _ => none

/-- One rule. -/
def readRule? (s : List Char) : Option Reading :=
  match s with
  | [] => none
  | c :: _ =>
    if ¬startsRule c then none
    else
      let target := s.takeWhile fun c => c != '=' && c != '['
      let named (t : List Char) : Option String := some (String.ofList t)
      match s.drop target.length with
      | [] =>
        match readThreshold? target with
        | some t => some (.rule ⟨none, [], t⟩)
        | none => some (.rule ⟨named target, [], .upTo .trace⟩)
      | '=' :: level => (readLevel? level).map fun t => .rule ⟨named target, [], t⟩
      | _ :: rest =>
        let inside := rest.takeWhile (· != ']')
        let level? : Option Threshold :=
          match rest.drop inside.length with
          | [']'] => some (.upTo .trace)
          | ']' :: '=' :: level => readLevel? level
          | _ => none
        match readSpan? inside, level? with
        | some (true, _), some _ => some .spansOnly
        | some (false, fields), some t =>
          some (.rule ⟨if target.isEmpty then none else named target, fields, t⟩)
        | _, _ => none

/-- A text cut at its commas. -/
def parts (s : List Char) : List (List Char) := (Text.cutAt ',' s).filter (!·.isEmpty)

/-- The filter that a text writes. Without any rule, errors are let through. -/
def read? (s : String) : Option Filter := do
  let readings ← (parts s.toList).mapM readRule?
  let rules := readings.filterMap fun
    | .rule r => some r
    | .spansOnly => none
  return if readings.isEmpty then [⟨none, [], .upTo .error⟩] else rules

/-- The filter of one level for everything. -/
def ofLevel (l : Level) : Filter := [⟨none, [], .upTo l⟩]

/-! ## Choosing -/

/-- Whether a rule is about a message. -/
def concerns (r : Rule) (e : Event) : Bool :=
  (r.target.all fun t => t.toList.isPrefixOf e.target.toList)
    && r.fields.all fun f => f == "message" || e.fields.any (·.1 == f)

/-- The code points of a text, by which texts are ordered. -/
def codes (s : String) : List Nat := s.toList.map Char.toNat

/-- Whether the first of two lists of texts does not come after the second. -/
def ordered (a b : List String) : Bool :=
  !(b.map codes).lex (a.map codes) fun x y => x.lex y (· < ·)

/-- Whether a rule is at least as specific as another: by its target, then by its fields. -/
def atLeast (r s : Rule) : Bool :=
  let size (r : Rule) : Nat := r.target.elim 0 fun t => t.utf8ByteSize + 1
  if size r ≠ size s then size s < size r
  else if r.fields.length ≠ s.fields.length then s.fields.length < r.fields.length
  else ordered s.fields r.fields

/-- The rule that decides about a message: the most specific, of equal ones the last. -/
def deciding? (f : Filter) (e : Event) : Option Rule :=
  (f.filter (concerns · e)).foldl (fun best r => some (best.elim r fun b => if atLeast r b then r else b))
    none

/-- Whether a message is let through. -/
def admits (f : Filter) (e : Event) : Bool := (f.deciding? e).any (·.threshold.admits e.level)

end Filter

end QueryAudit.Log
