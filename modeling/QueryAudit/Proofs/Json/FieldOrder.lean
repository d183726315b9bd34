import QueryAudit.Proofs.Json.Loose
import QueryAudit.Proofs.Json.ShapeComplete
/-!
# Structures in field order

`decode_object_iff`, `decode_array_iff`: an object whose members are those of the first fields, in order, and the
array of their values are read as the same structure, or are both refused, whatever the values are.
-/

namespace QueryAudit.Json

variable {σ : Type}

/-! ## Values for fields -/

/-- A JSON value is of the kind that a slot takes, and this is what it makes of the state. -/
inductive Slot.Accepts : Slot σ → Tree (List Char) → σ → σ → Prop
  | text {put state} {s : String} : Accepts (.text put) (.text s.toList) state (put s state)
  | integer {put literal n state} : IsInteger literal n.toInt →
      Accepts (.integer put) (.number literal) state (put n state)

/-- JSON values in the slots of the fields, in order; fields may be left over. -/
inductive Accept : List (Field σ) → σ → List (Tree (List Char)) → σ → Prop
  | nil {fields state} : Accept fields state [] state
  | next {field : Field σ} {fields t ts state state' state''} : field.slot.Accepts t state state' →
      Accept fields state' ts state'' → Accept (field :: fields) state (t :: ts) state''

theorem Decodes.unique {raw : Bytes} {cs cs' : List Char} (h : Decodes raw cs) (h' : Decodes raw cs') : cs = cs' := by
  have hquoted : Quoted cs (0x22 :: raw ++ [0x22]) [] := ⟨raw, h, rfl⟩
  have hquoted' : Quoted cs' (0x22 :: raw ++ [0x22]) [] := ⟨raw, h', rfl⟩
  exact (hquoted.unique hquoted').1

/-- A slot takes the octets of a value as it takes the value. -/
theorem Denotes.takes_iff {slot : Slot σ} {t' : Tree Bytes} {t : Tree (List Char)} {state state' : σ}
    (h : Denotes t' t) : slot.Takes t' state state' ↔ slot.Accepts t state state' := by
  constructor
  · intro htakes
    cases htakes with
    | text hd =>
      cases h with
      | text hd' =>
        rw [hd'.unique hd]
        exact .text
    | integer hl =>
      cases h
      exact .integer hl
  · intro haccepts
    cases haccepts with
    | text =>
      obtain ⟨raw, rfl, hd⟩ := h.of_text
      exact .text hd
    | integer hl =>
      rw [h.eq_number]
      exact .integer hl

theorem fits_iff_accept {fields : List (Field σ)} {ts' : List (Tree Bytes)} {ts : List (Tree (List Char))}
    {state state' : σ} (h : List.Forall₂ Denotes ts' ts) :
    Fits fields state ts' state' ↔ Accept fields state ts state' := by
  constructor
  · intro hfits
    induction hfits generalizing ts with
    | nil =>
      cases h
      exact .nil
    | next htakes _ ih =>
      cases h with
      | cons ht hts => exact .next (ht.takes_iff.1 htakes) (ih hts)
  · intro haccept
    induction haccept generalizing ts' with
    | nil =>
      cases h
      exact .nil
    | next haccepts _ ih =>
      cases h with
      | cons ht hts => exact .next (ht.takes_iff.2 haccepts) (ih hts)

namespace Shape

variable {shape : Shape σ} {ts : List (Tree (List Char))} {body : Bytes} {state : σ}

/-- The keys of the fields, in order. -/
def keys (shape : Shape σ) : List (List Char) := shape.fields.map (·.name.toList)

/-- Every field answers to its own name, and no two have the same. -/
structure Distinct (shape : Shape σ) : Prop where
  answers : ∀ field ∈ shape.fields, shape.field? field.name.toList = some field
  nodup : (shape.fields.map Field.name).Nodup

/-- Members of fields, each in its turn, fill them as their values would. -/
theorem fills_iff_accept {fields : List (Field σ)} {seen : List String} {ms' : List (List Char × Tree Bytes)}
    {state state' : σ} (hanswers : ∀ field ∈ fields, shape.field? field.name.toList = some field)
    (hnodup : (fields.map Field.name).Nodup) (hseen : ∀ field ∈ fields, field.name ∉ seen)
    (hlength : ts.length ≤ fields.length)
    (hms : List.Forall₂ (fun m' m => m'.1 = m.1 ∧ Denotes m'.2 m.2) ms' ((fields.map (·.name.toList)).zip ts)) :
    shape.Fills seen state ms' state' ↔ Accept fields state ts state' := by
  induction fields generalizing seen ms' ts state with
  | nil =>
    obtain rfl : ts = [] := List.length_eq_zero_iff.1 (Nat.le_zero.1 hlength)
    cases hms
    constructor
    · rintro ⟨⟩
      exact .nil
    · rintro ⟨⟩
      exact .nil
  | cons field fields ih =>
    cases ts with
    | nil =>
      cases hms
      constructor
      · rintro ⟨⟩
        exact .nil
      · rintro ⟨⟩
        exact .nil
    | cons t ts =>
      obtain ⟨hfield, hfields⟩ := List.forall_mem_cons.1 hanswers
      obtain ⟨hnot, hnodup⟩ := List.nodup_cons.1 hnodup
      obtain ⟨hfresh, hfreshs⟩ := List.forall_mem_cons.1 hseen
      cases hms with
      | @cons m' _ ms' _ hm hms =>
      obtain ⟨key, t'⟩ := m'
      obtain ⟨rfl, ht⟩ : key = field.name.toList ∧ Denotes t' t := hm
      -- The fields behind this one have other names, so that they have not had a member yet.
      have hrest : ∀ other ∈ fields, other.name ∉ field.name :: seen := by
        intro other hother hmem
        rcases List.mem_cons.1 hmem with hname | hmem
        · exact hnot (hname ▸ List.mem_map_of_mem hother)
        · exact hfreshs other hother hmem
      have hmore {state : σ} : shape.Fills (field.name :: seen) state ms' state' ↔ Accept fields state ts state' :=
        ih hfields hnodup hrest (Nat.le_of_succ_le_succ hlength) hms
      constructor
      · intro hfills
        cases hfills with
        | known hf _ htakes hfills =>
          rw [hfield] at hf
          cases hf
          exact .next (ht.takes_iff.1 htakes) (hmore.1 hfills)
        | unknown hf _ =>
          rw [hfield] at hf
          cases hf
      · intro haccept
        cases haccept with
        | next haccepts haccept =>
          exact .known hfield hfresh (ht.takes_iff.2 haccepts) (hmore.2 haccept)

/-! ## Whole texts -/

theorem decode_object_iff (hshape : shape.Distinct) (h : IsText .standard (.object (shape.keys.zip ts)) body)
    (hlength : ts.length ≤ shape.fields.length) :
    shape.decode body = .ok state ↔ Accept shape.fields shape.initial ts state := by
  obtain ⟨ms', hobject, hms⟩ := h.isObject
  have hnone : ∀ field ∈ shape.fields, field.name ∉ ([] : List String) := fun _ _ => List.not_mem_nil
  rw [← fills_iff_accept hshape.answers hshape.nodup hnone hlength hms, decode_eq_ok_iff]
  constructor
  · rintro (⟨ms, hms, hfills⟩ | ⟨ts', hts, -⟩)
    · rwa [hobject.unique hms]
    · exact absurd hts hobject.not_isArray
  · exact fun hfills => .inl ⟨ms', hobject, hfills⟩

theorem decode_array_iff (h : IsText .standard (.list ts) body) :
    shape.decode body = .ok state ↔ Accept shape.fields shape.initial ts state := by
  obtain ⟨ts', harray, hts⟩ := h.isArray
  rw [← fits_iff_accept hts, decode_eq_ok_iff]
  constructor
  · rintro (⟨ms, hms, -⟩ | ⟨ts'', hts'', hfits⟩)
    · exact absurd harray hms.not_isArray
    · rwa [harray.unique hts'']
  · exact fun hfits => .inr ⟨ts', harray, hfits⟩

end Shape

end QueryAudit.Json
