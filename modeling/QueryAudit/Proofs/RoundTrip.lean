import QueryAudit.Deployment
import QueryAudit.Proofs.Json.FieldOrder
import QueryAudit.Proofs.Json.Render
import QueryAudit.Record
/-!
# Records and deployments survive JSON

`read_back`: what is written for a record or a deployment is read back as it, and it does not matter whether the
first fields stand in an object or in an array.
-/

namespace QueryAudit

open Json

/-! ## Structures that are written and read -/

section structures

variable {σ : Type}

/-- A text that holds a structure, read and written again. -/
def rewrite (shape : Shape σ) (write : σ → String) (text : Bytes) : Except Located Bytes :=
  (shape.decode text).map fun x => octets (write x)

/-- Structures survive JSON. `values` are those of the fields in order, and `first` is what is left of a structure
without the fields behind the first ones. -/
structure Survives (shape : Shape σ) (write : σ → String) (values : σ → List (Json.Tree (List Char)))
    (first : Nat → σ → σ) : Prop where
  read_write : ∀ x, shape.decode (octets (write x)) = .ok x
  /-- What a text is rewritten as holds the same, and is not rewritten any further. -/
  canonical : ∀ text x, shape.decode text = .ok x →
    ∃ written, rewrite shape write text = .ok written ∧ shape.decode written = .ok x ∧
      rewrite shape write written = .ok written
  /-- Keys in order are as good as no keys, whatever the values are. -/
  keyless : ∀ ts object array, ts.length ≤ shape.fields.length → IsText .standard (.object (shape.keys.zip ts)) object →
    IsText .standard (.list ts) array → ∀ x, shape.decode object = .ok x ↔ shape.decode array = .ok x
  /-- The values of the first fields make a structure, with keys and without. -/
  firsts : ∀ k x object array, IsText .standard (.object (shape.keys.zip ((values x).take k))) object →
    IsText .standard (.list ((values x).take k)) array →
    shape.decode object = .ok (first k x) ∧ shape.decode array = .ok (first k x)

variable {shape : Shape σ} {write : σ → String} {values : σ → List (Json.Tree (List Char))} {first : Nat → σ → σ}

theorem survives_of_accept (hshape : shape.Distinct) (hlength : ∀ x, (values x).length = shape.fields.length)
    (hwrite : ∀ x, IsText .standard (.object (shape.keys.zip (values x))) (octets (write x)))
    (haccept : ∀ k x, Accept shape.fields shape.initial ((values x).take k) (first k x))
    (hall : ∀ x, first shape.fields.length x = x) : Survives shape write values first := by
  have hread (x : σ) : shape.decode (octets (write x)) = .ok x := by
    have h := haccept shape.fields.length x
    rw [hall, List.take_of_length_le (Nat.le_of_eq (hlength x))] at h
    exact (Shape.decode_object_iff hshape (hwrite x) (Nat.le_of_eq (hlength x))).2 h
  have hrewrite {text : Bytes} {x : σ} (h : shape.decode text = .ok x) :
      rewrite shape write text = .ok (octets (write x)) := by rw [rewrite, h, Except.map]
  exact {
    read_write := hread
    canonical := fun text x h => ⟨_, hrewrite h, hread x, hrewrite (hread x)⟩
    keyless := fun ts object array hle hobject harray x =>
      (Shape.decode_object_iff hshape hobject hle).trans (Shape.decode_array_iff harray).symm
    firsts := fun k x object array hobject harray => by
      have hle : ((values x).take k).length ≤ shape.fields.length := by
        rw [List.length_take, hlength]
        exact Nat.min_le_right ..
      exact ⟨(Shape.decode_object_iff hshape hobject hle).2 (haccept k x),
        (Shape.decode_array_iff harray).2 (haccept k x)⟩ }

/-- What is written for a value is a JSON text. -/
theorem isText_toText (v : Value) : IsText .standard v.tree (octets v.toText) := by
  rw [octets, Value.toText, String.toList_ofList]
  exact (Value.isText_render v).standard

end structures

/-! ## Records -/

namespace Record

/-- The values of a record, in the order of its fields. -/
def values (r : Record) : List (Json.Tree (List Char)) :=
  [.text r.query.toList, .text r.user.toList, .number (Utf8.encode (Numeral.signedDecimal r.timestamp.toInt))]

/-- A record of which only the first fields are given. -/
def first (k : Nat) (r : Record) : Record where
  query := if 0 < k then r.query else ""
  user := if 1 < k then r.user else ""
  timestamp := if 2 < k then r.timestamp else 0

theorem accept_values (k : Nat) (r : Record) : Accept shape.fields shape.initial (r.values.take k) (r.first k) := by
  match k with
  | 0 => exact .nil
  | 1 => exact .next .text .nil
  | 2 => exact .next .text (.next .text .nil)
  | k + 3 =>
    have hall : r.first (k + 3) = r := by simp [first]
    rw [hall, List.take_of_length_le (by simp [values])]
    exact .next .text (.next .text (.next (.integer (isInteger_signedDecimal _)) .nil))

theorem distinct_shape : shape.Distinct where
  answers := by simp [shape, Shape.field?]
  nodup := by decide

theorem survives : Survives shape toJson values (fun k r => r.first k) :=
  survives_of_accept distinct_shape (fun _ => rfl) (fun r => isText_toText r.value) (fun k r => accept_values k r)
    fun _ => rfl

end Record

/-! ## Deployments -/

namespace Deployment

/-- The values of a deployment, in the order of its fields. -/
def values (d : Deployment) : List (Json.Tree (List Char)) := Field.all.map fun f => .text (d.get f).toList

/-- A deployment of which only the first fields are given. -/
def first (k : Nat) (d : Deployment) : Deployment := (Field.all.take k).foldl (fun e f => e.set f (d.get f)) {}

/-- Texts for some fields set these fields. -/
theorem accept_texts (d : Deployment) (fs : List Field) (k : Nat) (e : Deployment) :
    Accept (fs.map fun f => ⟨f.key, [], .text fun s d => d.set f s⟩) e
      ((fs.map fun f => (.text (d.get f).toList : Json.Tree (List Char))).take k)
      ((fs.take k).foldl (fun e f => e.set f (d.get f)) e) := by
  induction fs generalizing k e with
  | nil =>
    rw [List.map_nil, List.map_nil, List.take_nil, List.take_nil]
    exact .nil
  | cons f fs ih =>
    cases k with
    | zero => exact .nil
    | succ k => exact .next .text (ih k _)

theorem distinct_shape : shape.Distinct where
  answers field h := by
    obtain ⟨f, -, rfl⟩ := List.mem_map.1 h
    cases f <;> rfl
  nodup := by decide

theorem survives : Survives shape toJson values (fun k d => d.first k) :=
  survives_of_accept distinct_shape (fun _ => rfl) (fun d => isText_toText d.value)
    (fun k d => accept_texts d Field.all k {}) fun _ => rfl

end Deployment

/-- Records and deployments survive JSON: what is written for one is read back as it, a text that holds one is
rewritten as a text that holds the same and stays as it is, and the first fields, as many as there are, may stand in
an object or in an array. -/
theorem read_back :
    Survives Record.shape Record.toJson Record.values (fun k r => r.first k) ∧
      Survives Deployment.shape Deployment.toJson Deployment.values (fun k d => d.first k) :=
  ⟨Record.survives, Deployment.survives⟩

end QueryAudit
