import QueryAudit.Toml.Statement
/-!
# What a TOML text comes to

`Document.parse?` reads a text and carries out its statements: a header starts a table, and the keys
behind it go there. A table is defined once. A table that only a longer header has implied so far can
still be given a header of its own; it then moves behind the tables that were there before.
-/

namespace QueryAudit.Toml

/-- Keys with values behind one header. -/
abbrev Section := List (List Key × Key × Node)

namespace Entries

/-- The table without the entry of a name. -/
def erase (es : Entries) (name : String) : Entries := es.filter (·.1.name != name)

/-- The table with another node for a name. -/
def replace (es : Entries) (name : String) (node : Node) : Entries :=
  es.map fun e => if e.1.name = name then (e.1, node) else e

/-- The table with a change at the end of a path of headers. Tables on the way that are not there yet
are implied; of the tables of a repeated header the last one is meant. -/
def change? (f : Entries → Option Entries) (es : Entries) : List Key → Option Entries
  | [] => f es
  | k :: path =>
    match es.get? k.name with
    | none => (change? f [] path).map fun sub => es ++ [(k, .table .implied none sub)]
    | some (_, .table origin span sub) =>
      if origin = .inline then none
      else (change? f sub path).map fun sub => es.replace k.name (.table origin span sub)
    | some (_, .tables elements) =>
      match elements.getLast? with
      | some (.table origin span sub) =>
        (change? f sub path).map fun sub =>
          es.replace k.name (.tables (elements.dropLast ++ [.table origin span sub]))
      | _ => none
    | some _ => none

/-- The table with the keys behind its header. -/
def fill? (es : Entries) (body : Section) : Option Entries :=
  body.foldlM (fun es (path, key, node) => place? path.isEmpty .header es path key node) es

end Entries

/-- The text of a table: from its header to the end of its last value. -/
def spanOf (header : Span) (body : Section) : Span :=
  match body.getLast?.bind (·.2.2.span?) with
  | some last => ⟨header.fromStart, last.fromStop⟩
  | none => header

/-- A table of its own header, added where its key says. -/
def define? (key : Key) (header : Span) (body : Section) (es : Entries) : Option Entries :=
  let table (sub : Entries) : Node := .table .header (some (spanOf header body)) sub
  match es.get? key.name with
  | none => (Entries.fill? [] body).map fun sub => es ++ [(key, table sub)]
  | some (_, .table .implied _ sub) =>
    (Entries.fill? sub body).map fun sub => es.erase key.name ++ [(key, table sub)]
  | some _ => none

/-- One more table of a repeated header, added where its key says. -/
def append? (key : Key) (header : Span) (body : Section) (es : Entries) : Option Entries := do
  let sub ← Entries.fill? [] body
  let table : Node := .table .header (some (spanOf header body)) sub
  match es.get? key.name with
  | none => return es ++ [(key, .tables [table])]
  | some (_, .tables elements) => return es.replace key.name (.tables (elements ++ [table]))
  | some _ => none

/-- The keys in front of the next header, and the statements from there on. -/
def cutSection : List Statement → Section × List Statement
  | .assign path key node :: rest =>
    let (body, rest) := cutSection rest
    ((path, key, node) :: body, rest)
  | rest => ([], rest)

theorem cutSection_length (sts : List Statement) :
    (cutSection sts).2.length ≤ sts.length := by
  fun_induction cutSection sts <;> grind

/-- The document after headers with the keys behind them. -/
def build? (es : Entries) (sts : List Statement) : Option Entries :=
  match sts with
  | [] => some es
  | .assign .. :: _ => none
  | .header path key span :: rest =>
    match es.change? (define? key span (cutSection rest).1) path with
    | none => none
    | some es => build? es (cutSection rest).2
  | .repeated path key span :: rest =>
    match es.change? (append? key span (cutSection rest).1) path with
    | none => none
    | some es => build? es (cutSection rest).2
termination_by sts.length
decreasing_by
  all_goals
    have := cutSection_length rest
    grind

/-- The entries of a document, if its text is TOML. -/
def Document.parse? (s : List Char) : Option Entries := do
  let sts ← Statement.all? s
  let top := cutSection sts
  build? (← Entries.fill? [] top.1) top.2

end QueryAudit.Toml
