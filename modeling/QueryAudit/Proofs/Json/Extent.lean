import QueryAudit.Proofs.Json.Unambiguous
/-!
# Where JSON ends

`Begins.exists_front`: where an object or array ends does not hang on what follows it. Its last octet is its closing
bracket, and with anything else behind that it is an object or array still, which ends in the same place.
-/

namespace QueryAudit.Json

/-- What stands before `rest` does not hang on what `rest` is. -/
def Stands (R : Bytes → Bytes → Prop) (bs rest : Bytes) : Prop := ∃ front, bs = front ++ rest ∧ ∀ s, R (front ++ s) s

theorem Blanks.stands {bs rest : Bytes} (h : Blanks bs rest) : Stands Blanks bs rest := by
  obtain ⟨g, hg, rfl⟩ := h
  exact ⟨g, rfl, fun s => ⟨g, hg, rfl⟩⟩

theorem Blanks.stands_cons {b : UInt8} {bs rest : Bytes} (h : Blanks bs (b :: rest)) :
    Stands (fun bs rest => Blanks bs (b :: rest)) bs rest := by
  obtain ⟨g, hg, rfl⟩ := h
  exact ⟨g ++ [b], by simp, fun s => ⟨g, hg, by simp⟩⟩

theorem Quoted.stands {cs : List Char} {bs rest : Bytes} (h : Quoted cs bs rest) : Stands (Quoted cs) bs rest := by
  obtain ⟨raw, hd, rfl⟩ := h
  exact ⟨0x22 :: raw ++ [0x22], by simp, fun s => ⟨raw, hd, by simp⟩⟩

theorem QuotedRaw.stands {raw bs rest : Bytes} (h : QuotedRaw raw bs rest) : Stands (QuotedRaw raw) bs rest := by
  obtain ⟨hraw, rfl⟩ := h
  exact ⟨0x22 :: raw ++ [0x22], by simp, fun s => ⟨hraw, by simp⟩⟩

theorem Comma.stands {first : Bool} {bs rest : Bytes} (h : Comma Blanks first bs rest) :
    Stands (Comma Blanks first) bs rest := by
  cases first with
  | true =>
    obtain rfl : bs = rest := h
    exact ⟨[], rfl, fun s => rfl⟩
  | false => exact Blanks.stands_cons h

/-! ## Items between brackets -/

section items

variable {α κ : Type} {value : α → Bytes → Bytes → Prop}

theorem Elements.stands {first : Bool} {as : List α} {bs rest : Bytes} (h : Elements Blanks value first as bs rest)
    (hv : ∀ a ∈ as, ∀ {v e}, value a v e → Stands (value a) v e) :
    ∃ front, bs = front ++ 0x5D :: rest ∧ ∀ s, Elements Blanks value first as (front ++ 0x5D :: s) s := by
  induction h with
  | close hd =>
    obtain ⟨g, hg, rfl⟩ := hd
    exact ⟨g, rfl, fun s => .close ⟨g, hg, rfl⟩⟩
  | next hc hcv ha _ ih =>
    obtain ⟨f, rfl, hf⟩ := hc.stands
    obtain ⟨g, rfl, hg⟩ := hcv.stands
    obtain ⟨w, rfl, hw⟩ := hv _ List.mem_cons_self ha
    obtain ⟨more, rfl, hmore⟩ := ih fun a ha => hv a (List.mem_cons_of_mem _ ha)
    refine ⟨f ++ (g ++ (w ++ more)), by simp, fun s => ?_⟩
    simp only [List.append_assoc]
    exact .next (hf _) (hg _) (hw _) (hmore s)

theorem Members.stands {key : κ → Bytes → Bytes → Prop} {first : Bool} {ms : List (κ × α)} {bs rest : Bytes}
    (h : Members Blanks key value first ms bs rest) (hk : ∀ {k l m}, key k l m → Stands (key k) l m)
    (hv : ∀ m ∈ ms, ∀ {v e}, value m.2 v e → Stands (value m.2) v e) :
    ∃ front, bs = front ++ 0x7D :: rest ∧ ∀ s, Members Blanks key value first ms (front ++ 0x7D :: s) s := by
  induction h with
  | close hd =>
    obtain ⟨g, hg, rfl⟩ := hd
    exact ⟨g, rfl, fun s => .close ⟨g, hg, rfl⟩⟩
  | next hc hcl hkey hmn hnv ha _ ih =>
    obtain ⟨f, rfl, hf⟩ := hc.stands
    obtain ⟨g, rfl, hg⟩ := hcl.stands
    obtain ⟨k, rfl, hk'⟩ := hk hkey
    obtain ⟨c, rfl, hcolon⟩ := hmn.stands_cons
    obtain ⟨g', rfl, hg'⟩ := hnv.stands
    obtain ⟨w, rfl, hw⟩ := hv _ List.mem_cons_self ha
    obtain ⟨more, rfl, hmore⟩ := ih fun m hm => hv m (List.mem_cons_of_mem _ hm)
    refine ⟨f ++ (g ++ (k ++ (c ++ (g' ++ (w ++ more))))), by simp, fun s => ?_⟩
    simp only [List.append_assoc]
    exact .next (hf _) (hg _) (hk' _) (hcolon _) (hg' _) (hw _) (hmore s)

end items

/-! ## Trees -/

/-- Digits behind a number do not take its spelling away, though they spell a longer one with it. -/
theorem Spells.stands {t : Tree Bytes} {bs rest : Bytes} (h : Spells .loose t bs rest) :
    Stands (Spells .loose t) bs rest := by
  induction t using Tree.induct generalizing bs rest with
  | null =>
    cases h
    exact ⟨[0x6E, 0x75, 0x6C, 0x6C], rfl, fun s => .null⟩
  | boolean value =>
    cases h
    · exact ⟨[0x74, 0x72, 0x75, 0x65], rfl, fun s => .true⟩
    · exact ⟨[0x66, 0x61, 0x6C, 0x73, 0x65], rfl, fun s => .false⟩
  | number literal =>
    cases h with
    | number hl => exact ⟨literal, rfl, fun s => .number hl⟩
  | text raw =>
    cases h with
    | text h =>
      obtain ⟨front, rfl, hf⟩ := QuotedRaw.stands h
      exact ⟨front, rfl, fun s => .text (hf s)⟩
  | list ts ih =>
    cases h with
    | list h =>
      obtain ⟨front, rfl, hf⟩ := h.stands ih
      refine ⟨0x5B :: front ++ [0x5D], by simp, fun s => ?_⟩
      simp only [List.cons_append, List.append_assoc, List.nil_append]
      exact .list (hf s)
  | object ms ih =>
    cases h with
    | object h =>
      obtain ⟨front, rfl, hf⟩ := h.stands QuotedRaw.stands ih
      refine ⟨0x7B :: front ++ [0x7D], by simp, fun s => ?_⟩
      simp only [List.cons_append, List.append_assoc, List.nil_append]
      exact .object (hf s)

/-! ## Objects and arrays -/

/-- A body begins, blanks apart, with an object or an array, and `rest` follows it. -/
inductive Begins (body rest : Bytes) : Prop
  | object {ms bs} : Blanks body (0x7B :: bs) → Members Blanks Quoted (Spells .loose) true ms bs rest → Begins body rest
  | array {ts bs} : Blanks body (0x5B :: bs) → Elements Blanks (Spells .loose) true ts bs rest → Begins body rest

namespace Begins

variable {body rest rest' : Bytes}

/-- What a body begins with ends in one place. -/
theorem unique (h : Begins body rest) (h' : Begins body rest') : rest = rest' := by
  cases h with
  | object hb h =>
    cases h' with
    | object hb' h' =>
      obtain ⟨-, rfl⟩ := Blanks.unique hb hb' rfl rfl
      exact (h.unique isGap_blanks sharp_quoted (Spells.front sharp_quotedRaw) h' fun m _ =>
        Spells.determined isGap_blanks sharp_quotedRaw m.2).2
    | array hb' => exact absurd (Blanks.unique hb hb' rfl rfl).1 (by decide)
  | array hb h =>
    cases h' with
    | object hb' => exact absurd (Blanks.unique hb hb' rfl rfl).1 (by decide)
    | array hb' h' =>
      obtain ⟨-, rfl⟩ := Blanks.unique hb hb' rfl rfl
      exact (h.unique isGap_blanks (Spells.front sharp_quotedRaw) h' fun t _ =>
        Spells.determined isGap_blanks sharp_quotedRaw t).2

/-- Up to its closing bracket a body begins alike whatever follows. -/
theorem exists_front (h : Begins body rest) : ∃ front close, isBlank close = false ∧ body = front ++ close :: rest ∧
    ∀ s, Begins (front ++ close :: s) s := by
  cases h with
  | object hb h =>
    obtain ⟨g, rfl, hg⟩ := hb.stands_cons
    obtain ⟨front, rfl, hf⟩ := h.stands Quoted.stands fun m _ => Spells.stands
    refine ⟨g ++ front, 0x7D, rfl, by simp, fun s => ?_⟩
    rw [List.append_assoc]
    exact .object (hg _) (hf s)
  | array hb h =>
    obtain ⟨g, rfl, hg⟩ := hb.stands_cons
    obtain ⟨front, rfl, hf⟩ := h.stands fun t _ => Spells.stands
    refine ⟨g ++ front, 0x5D, rfl, by simp, fun s => ?_⟩
    rw [List.append_assoc]
    exact .array (hg _) (hf s)

end Begins

end QueryAudit.Json
