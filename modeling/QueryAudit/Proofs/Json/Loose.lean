import Mathlib.Data.List.Forall2
import QueryAudit.Proofs.Json.Shape
import QueryAudit.Proofs.Json.Unambiguous
/-!
# Texts known by their octets

`Spells.loose`: whatever spells a JSON value spells it loosely too, and each text is then known by octets
that denote it. So what is proved of the looser spellings holds of every JSON text.
-/

namespace QueryAudit.Json

/-- A tree whose texts are known by their octets, next to the tree that those denote. -/
inductive Denotes : Tree Bytes → Tree (List Char) → Prop
  | null : Denotes .null .null
  | boolean {value} : Denotes (.boolean value) (.boolean value)
  | number {literal} : Denotes (.number literal) (.number literal)
  | text {raw s} : Decodes raw s → Denotes (.text raw) (.text s)
  | list {ts' ts} : List.Forall₂ Denotes ts' ts → Denotes (.list ts') (.list ts)
  | object {ms' ms} : List.Forall₂ Decodes (ms'.map Prod.fst) (ms.map Prod.fst) →
      List.Forall₂ Denotes (ms'.map Prod.snd) (ms.map Prod.snd) → Denotes (.object ms') (.object ms)

theorem Denotes.eq_number {t' : Tree Bytes} {literal : Bytes} (h : Denotes t' (.number literal)) :
    t' = .number literal := by
  cases h
  rfl

theorem Denotes.of_text {t' : Tree Bytes} {s : List Char} (h : Denotes t' (.text s)) :
    ∃ raw, t' = .text raw ∧ Decodes raw s := by
  cases h with
  | text hd => exact ⟨_, rfl, hd⟩

/-! ## Items between brackets -/

section items

variable {α α' κ κ' : Type} {gap : Bytes → Bytes → Prop}

theorem Elements.exists_forall₂ {value : α → Bytes → Bytes → Prop} {value' : α' → Bytes → Bytes → Prop}
    {R : α' → α → Prop} {first : Bool} {as : List α} {bs rest : Bytes} (h : Elements gap value first as bs rest)
    (hv : ∀ a ∈ as, ∀ {v e}, value a v e → ∃ a', value' a' v e ∧ R a' a) :
    ∃ as', Elements gap value' first as' bs rest ∧ List.Forall₂ R as' as := by
  induction h with
  | close hd => exact ⟨[], .close hd, .nil⟩
  | next hc hcv ha _ ih =>
    obtain ⟨a', ha', hr⟩ := hv _ List.mem_cons_self ha
    obtain ⟨as', has', hrs⟩ := ih fun a ha => hv a (by simp [ha])
    exact ⟨a' :: as', .next hc hcv ha' has', .cons hr hrs⟩

theorem Members.exists_forall₂ {key : κ → Bytes → Bytes → Prop} {key' : κ' → Bytes → Bytes → Prop}
    {value : α → Bytes → Bytes → Prop} {value' : α' → Bytes → Bytes → Prop} {K : κ' → κ → Prop} {R : α' → α → Prop}
    {first : Bool} {ms : List (κ × α)} {bs rest : Bytes} (h : Members gap key value first ms bs rest)
    (hk : ∀ {k l m}, key k l m → ∃ k', key' k' l m ∧ K k' k)
    (hv : ∀ m ∈ ms, ∀ {v e}, value m.2 v e → ∃ a', value' a' v e ∧ R a' m.2) :
    ∃ ms', Members gap key' value' first ms' bs rest ∧ List.Forall₂ (fun m' m => K m'.1 m.1 ∧ R m'.2 m.2) ms' ms := by
  induction h with
  | close hd => exact ⟨[], .close hd, .nil⟩
  | next hc hcl hkey hmn hnv ha _ ih =>
    obtain ⟨k', hk', hkk⟩ := hk hkey
    obtain ⟨a', ha', hr⟩ := hv _ List.mem_cons_self ha
    obtain ⟨ms', hms', hrs⟩ := ih fun m hm => hv m (by simp [hm])
    exact ⟨(k', a') :: ms', .next hc hcl hk' hmn hnv ha' hms', .cons ⟨hkk, hr⟩ hrs⟩

end items

/-! ## Trees -/

theorem Quoted.loose {cs : List Char} {bs rest : Bytes} (h : Quoted cs bs rest) :
    ∃ raw, QuotedRaw raw bs rest ∧ Decodes raw cs := by
  obtain ⟨raw, hd, rfl⟩ := h
  exact ⟨raw, ⟨hd.isRaw, rfl⟩, hd⟩

theorem Spells.loose {t : Tree (List Char)} {bs rest : Bytes} (h : Spells .standard t bs rest) :
    ∃ t', Spells .loose t' bs rest ∧ Denotes t' t := by
  induction t using Tree.induct generalizing bs rest with
  | null =>
    cases h
    exact ⟨_, .null, .null⟩
  | boolean value =>
    cases h
    · exact ⟨_, .true, .boolean⟩
    · exact ⟨_, .false, .boolean⟩
  | number literal =>
    cases h with
    | number h => exact ⟨_, .number h, .number⟩
  | text s =>
    cases h with
    | text h =>
      obtain ⟨raw, hraw, hd⟩ := h.loose
      exact ⟨_, .text hraw, .text hd⟩
  | list ts ih =>
    cases h with
    | list h =>
      obtain ⟨ts', hts', hd⟩ := h.exists_forall₂ ih
      exact ⟨_, .list hts', .list hd⟩
  | object ms ih =>
    cases h with
    | object h =>
      obtain ⟨ms', hms', hd⟩ := h.exists_forall₂ Quoted.loose ih
      refine ⟨_, .object hms', .object ?_ ?_⟩
      · simpa using hd.imp fun _ _ => And.left
      · simpa using hd.imp fun _ _ => And.right
/-! ## Whole bodies -/

/-- A JSON object is one whose values are known by octets that denote them. -/
theorem IsText.isObject {ms : List (List Char × Tree (List Char))} {body : Bytes}
    (h : IsText .standard (.object ms) body) :
    ∃ ms', IsObject ms' body ∧ List.Forall₂ (fun m' m => m'.1 = m.1 ∧ Denotes m'.2 m.2) ms' ms := by
  obtain ⟨bs, rest, hbs, ht, hrest⟩ := h
  cases ht with
  | object hms =>
    obtain ⟨ms', hms', hd⟩ := hms.exists_forall₂ (fun hk => ⟨_, hk, rfl⟩) fun m _ => Spells.loose
    exact ⟨ms', ⟨_, rest, hbs, hms', hrest⟩, hd⟩

/-- A JSON array is one whose elements are known by octets that denote them. -/
theorem IsText.isArray {ts : List (Tree (List Char))} {body : Bytes} (h : IsText .standard (.list ts) body) :
    ∃ ts', IsArray ts' body ∧ List.Forall₂ Denotes ts' ts := by
  obtain ⟨bs, rest, hbs, ht, hrest⟩ := h
  cases ht with
  | list hts =>
    obtain ⟨ts', hts', hd⟩ := hts.exists_forall₂ fun t _ => Spells.loose
    exact ⟨ts', ⟨_, rest, hbs, hts', hrest⟩, hd⟩

end QueryAudit.Json
