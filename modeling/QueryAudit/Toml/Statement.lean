import QueryAudit.Toml.Scalar
/-!
# TOML statements

A text in TOML is a list of statements, one a line: a key with its value, the header of a table, or the
header of one of several tables. `Statement.all?` reads them; what they come to is the business of
`Toml/Document`. Values may be nested so deep, and no deeper.
-/

namespace QueryAudit.Toml

/-- One line of a document. -/
inductive Statement
  | assign (path : List Key) (key : Key) (value : Node)
  | header (path : List Key) (key : Key) (span : Span)
  | repeated (path : List Key) (key : Key) (span : Span)

/-- Parts that a dotted key may have, and depth to which values may be nested, at most. -/
def limit : Nat := 79

/-! ## Keys -/

/-- A character of a key without quotation marks. -/
def isBare (c : Char) : Bool := c.isAlphanum || c == '_' || c == '-'

/-- One part of a key. -/
def keyPart? (s : List Char) : Option (Key × List Char) :=
  let named (p : List Char × List Char) : Key × List Char :=
    (⟨String.ofList p.1, s.length, p.2.length⟩, p.2)
  match s with
  | '"' :: rest => (basic? rest).map named
  | '\x27' :: rest => (literal? rest).map named
  | s =>
    let name := s.takeWhile isBare
    if name.isEmpty then none else some (named (name, s.drop name.length))

/-- The parts of a key, with dots between them, and what follows the blanks behind it. -/
def keyParts? (s : List Char) : Option (List Key × List Char) :=
  match keyPart? (dropBlanks s) with
  | none => none
  | some (k, rest) =>
    match dropBlanks rest with
    | '.' :: after =>
      if _h : after.length < s.length then
        (keyParts? after).map fun (ks, rest) => (k :: ks, rest)
      else none
    | rest => some ([k], rest)
termination_by s.length

/-- A key of at most so many parts: those before the last, the last, and what follows. -/
def key? (s : List Char) : Option (List Key × Key × List Char) :=
  (keyParts? s).bind fun (ks, rest) =>
    if limit < ks.length then none else ks.getLast?.map fun k => (ks.dropLast, k, rest)

/-! ## Tables between braces -/

/-- A table with one more entry, from a key without dots or from one with. Keys with dots may share
their first parts with each other, and with nothing else. `alone` says that the key has no dots. -/
def place? (alone : Bool) (origin : Origin) (es : Entries) : List Key → Key → Node → Option Entries
  | [], key, node =>
    if alone = decide (origin = .dotted) then none
    else if (es.get? key.name).isSome then none
    else some (es ++ [(key, node)])
  | k :: path, key, node =>
    match es.get? k.name with
    | none => (place? false .dotted [] path key node).map fun sub =>
      es ++ [(k, .table .dotted none sub)]
    | some (_, .table origin span sub) =>
      if origin = .dotted ∨ origin = .implied then
        (place? false origin sub path key node).map fun sub =>
          es.map fun e => if e.1.name = k.name then (e.1, .table origin span sub) else e
      else none
    | some (_, .tables elements) =>
      match elements.getLast? with
      | some (.table origin span sub) =>
        (place? false origin sub path key node).map fun sub =>
          es.map fun e =>
            if e.1.name = k.name then
              (e.1, .tables (elements.dropLast ++ [.table origin span sub]))
            else e
      | _ => none
    | some _ => none

/-! ## Values -/

/-- What follows a comment. -/
def dropComment (s : List Char) : List Char :=
  match s with
  | '#' :: rest => rest.dropWhile isVisible
  | rest => rest

/-- What follows blanks, line breaks and comments. A comment ends with its line. -/
def dropFiller (s : List Char) : List Char :=
  match dropLines s with
  | '#' :: rest =>
    match newline? (rest.dropWhile isVisible) with
    | some after => if _h : after.length < s.length then dropFiller after else '#' :: rest
    | none => '#' :: rest
  | rest => rest
termination_by s.length

/-- The values of an array up to its closing bracket. `value?` reads one. -/
def items? (value? : List Char → Option (Node × List Char)) (s : List Char) :
    Option (List Node × List Char) :=
  match dropFiller s with
  | ']' :: rest => some ([], rest)
  | start =>
    match value? start with
    | none => none
    | some (node, rest) =>
      match dropFiller rest with
      | ']' :: rest => some ([node], rest)
      | ',' :: rest =>
        if _h : rest.length < s.length then
          (items? value? rest).map fun (nodes, rest) => (node :: nodes, rest)
        else none
      | _ => none
termination_by s.length

/-- The entries of a table between braces, behind the first brace or a comma. -/
def members? (value? : List Char → Option (Node × List Char)) (es : Entries) (s : List Char) :
    Option (Entries × List Char) :=
  match key? s with
  | some (path, key, '=' :: start) =>
    match value? (dropBlanks start) with
    | none => none
    | some (node, rest) =>
      match place? path.isEmpty .inline es path key node with
      | none => none
      | some es =>
        match dropBlanks rest with
        | '}' :: rest => some (es, rest)
        | ',' :: rest => if _h : rest.length < s.length then members? value? es rest else none
        | _ => none
  | _ => none
termination_by s.length

/-- A value nested no deeper than `depth`. -/
def value? : (depth : Nat) → List Char → Option (Node × List Char)
  | depth, '[' :: rest =>
    match depth with
    | 0 => none
    | depth + 1 => (items? (value? depth) rest).map fun (nodes, after) =>
      (.array nodes ⟨rest.length + 1, after.length⟩, after)
  | depth, '{' :: rest =>
    match depth with
    | 0 => none
    | depth + 1 =>
      let table (p : Entries × List Char) : Node × List Char :=
        (.table .inline (some ⟨rest.length + 1, p.2.length⟩) p.1, p.2)
      match dropBlanks rest with
      | '}' :: after => some (table ([], after))
      | start => (members? (value? depth) [] start).map table
  | _, s => (scalar? s).map fun (x, rest) => (.scalar x ⟨s.length, rest.length⟩, rest)

/-! ## Lines -/

/-- What follows the end of a line: blanks, a comment perhaps, and a line break or the end. -/
def endLine? (s : List Char) : Option (List Char) :=
  match dropComment (dropBlanks s) with
  | [] => some []
  | rest => newline? rest

/-- One statement up to the end of its line. -/
def statement? (s : List Char) : Option (Statement × List Char) :=
  match s with
  | '[' :: '[' :: rest =>
    match key? rest with
    | some (path, key, ']' :: ']' :: after) =>
      (endLine? after).map (.repeated path key ⟨s.length, after.length⟩, ·)
    | _ => none
  | '[' :: rest =>
    match key? rest with
    | some (path, key, ']' :: after) =>
      (endLine? after).map (.header path key ⟨s.length, after.length⟩, ·)
    | _ => none
  | s =>
    match key? s with
    | some (path, key, '=' :: start) => do
      let (node, rest) ← value? limit (dropBlanks start)
      return (.assign path key node, ← endLine? rest)
    | _ => none

/-- All statements of a text. -/
def statements? (s : List Char) : Option (List Statement) :=
  match dropBlanks s with
  | [] => some []
  | start =>
    let next (rest : List Char) : Option (List Statement) :=
      if _h : rest.length < s.length then statements? rest else none
    match start with
    | '#' :: _ => (endLine? start).bind next
    | '\n' :: rest => next rest
    | '\r' :: '\n' :: rest => next rest
    | start =>
      match statement? start with
      | none => none
      | some (st, rest) => (next rest).map (st :: ·)
termination_by s.length

/-- The mark that may stand in front of a text. -/
def byteOrderMark : Char := '\ufeff'

/-- All statements of a text, without the mark in front of it. -/
def Statement.all? (s : List Char) : Option (List Statement) :=
  statements? (if s.head? = some byteOrderMark then s.drop 1 else s)

end QueryAudit.Toml
