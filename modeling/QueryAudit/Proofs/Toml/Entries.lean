import QueryAudit.Toml.Document
/-!
# Well-formed documents

`Node.WellFormed`: in every table of a document each key stands once, and every integer fits 64 bits. Each operation
that puts documents together keeps them so.
-/

namespace QueryAudit.Toml

/-- An integer that has room in 64 bits. Other scalars have room as they are. -/
def Scalar.Fits : Scalar → Prop
  | .integer n => Int64.minValue.toInt ≤ n ∧ n ≤ Int64.maxValue.toInt
  | .text _ | .floating _ | .boolean _ | .datetime => True

/-- A node in which no table has a key twice and all integers fit. -/
inductive Node.WellFormed : Node → Prop
  | scalar {x span} : x.Fits → WellFormed (.scalar x span)
  | array {items span} : (∀ item ∈ items, WellFormed item) → WellFormed (.array items span)
  | table {origin span es} : (es.map (·.1.name)).Nodup → (∀ e ∈ es, WellFormed e.2) →
      WellFormed (.table origin span es)
  | tables {elements} : (∀ element ∈ elements, WellFormed element) → WellFormed (.tables elements)

namespace Entries

/-- A table that has no key twice, and whose nodes are like it. -/
structure WellFormed (es : Entries) : Prop where
  nodup : (es.map (·.1.name)).Nodup
  nodes : ∀ e ∈ es, e.2.WellFormed

variable {es : Entries} {key : Key} {node : Node} {name : String}

theorem WellFormed.table (h : es.WellFormed) (origin : Origin) (span : Option Span) :
    (Node.table origin span es).WellFormed :=
  .table h.nodup h.nodes

/-- A key keeps its place when it gets another node. -/
theorem WellFormed.replace (h : es.WellFormed) (hnode : node.WellFormed) : (es.replace name node).WellFormed where
  nodup := by
    have hnames : (es.replace name node).map (·.1.name) = es.map (·.1.name) := by
      rw [Entries.replace, List.map_map]
      refine List.map_congr_left fun e _ => ?_
      rw [Function.comp_apply]
      split <;> rfl
    exact hnames ▸ h.nodup
  nodes e he := by
    obtain ⟨old, hold, rfl⟩ := List.mem_map.1 he
    split
    · exact hnode
    · exact h.nodes old hold

theorem WellFormed.erase (h : es.WellFormed) (name : String) : (es.erase name).WellFormed where
  nodup := h.nodup.sublist (List.filter_sublist.map _)
  nodes e he := h.nodes e (List.mem_filter.1 he).1

end Entries

theorem Node.WellFormed.getLast? {elements : List Node} (h : (Node.tables elements).WellFormed) {last : Node}
    (hlast : elements.getLast? = some last) : last.WellFormed := by
  cases h with
  | tables h => exact h last (List.mem_of_getLast? hlast)

/-! ## Keys with values -/

namespace Entries

variable {es es' : Entries}

end Entries

variable {es es' : Entries} {key : Key} {header : Span} {body : Section}

end QueryAudit.Toml
