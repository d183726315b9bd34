import QueryAudit.Text.Cut
/-!
# Parts of a text

`cutAt_intercalate`: a text that is put together of parts is cut into what these are cut into. Parts that hold nothing
to cut at are found again as they were.
-/

namespace QueryAudit.Text

variable {α β : Type} {sep : α} {s t part : List α}

theorem forall_mem_intercalate {parts : List (List α)} {P : α → Prop} (hs : ∀ c ∈ s, P c)
    (hparts : ∀ part ∈ parts, ∀ c ∈ part, P c) : ∀ c ∈ s.intercalate parts, P c := by
  induction parts with
  | nil => nofun
  | cons part parts ih =>
    rw [List.forall_mem_cons] at hparts
    cases parts with
    | nil => simpa using hparts.1
    | cons next parts =>
      rw [List.intercalate_cons_cons]
      intro c hc
      rcases List.mem_append.1 hc with hc | hc
      · exact (List.mem_append.1 hc).elim (hparts.1 c) (hs c)
      · exact ih hparts.2 c hc

variable [DecidableEq α] [DecidableEq β]

theorem exists_cutAt_cons {c : α} (hc : c ≠ sep) (s : List α) :
    ∃ part parts, cutAt sep s = part :: parts ∧ cutAt sep (c :: s) = (c :: part) :: parts := by
  obtain ⟨part, parts, h⟩ := List.exists_cons_of_ne_nil (cutAt_ne_nil sep s)
  exact ⟨part, parts, h, by rw [cutAt, if_neg hc, h]⟩

theorem cutAt_append_cons (s t : List α) : cutAt sep (s ++ sep :: t) = cutAt sep s ++ cutAt sep t := by
  induction s with
  | nil => exact if_pos rfl
  | cons c s ih =>
    by_cases hc : c = sep
    · rw [List.cons_append, cutAt, if_pos hc, ih, cutAt, if_pos hc, List.cons_append]
    · obtain ⟨part, parts, hs, hcons⟩ := exists_cutAt_cons hc s
      obtain ⟨part', parts', hst, hcons'⟩ := exists_cutAt_cons hc (s ++ sep :: t)
      rw [ih, hs, List.cons_append] at hst
      obtain ⟨rfl, rfl⟩ := List.cons.inj hst
      rw [List.cons_append, hcons', hcons, List.cons_append]

theorem cutAt_intercalate {parts : List (List α)} (h : parts ≠ []) :
    cutAt sep ([sep].intercalate parts) = parts.flatMap (cutAt sep) := by
  induction parts with
  | nil => exact absurd rfl h
  | cons part parts ih =>
    cases parts with
    | nil => simp
    | cons next parts =>
      rw [List.intercalate_cons_cons, List.append_assoc, List.singleton_append, cutAt_append_cons,
        ih (List.cons_ne_nil _ _)]
      rfl

/-- What holds nothing to cut at stays in front of the first part. -/
theorem cutAt_append (h : sep ∉ s) (t : List α) :
    ∃ part parts, cutAt sep t = part :: parts ∧ cutAt sep (s ++ t) = (s ++ part) :: parts := by
  induction s with
  | nil =>
    obtain ⟨part, parts, ht⟩ := List.exists_cons_of_ne_nil (cutAt_ne_nil sep t)
    exact ⟨part, parts, ht, ht⟩
  | cons c s ih =>
    rw [List.mem_cons, not_or] at h
    obtain ⟨part, parts, ht, hst⟩ := ih h.2
    obtain ⟨part', parts', hst', hcons⟩ := exists_cutAt_cons (Ne.symm h.1) (s ++ t)
    rw [hst] at hst'
    obtain ⟨rfl, rfl⟩ := List.cons.inj hst'
    exact ⟨part, parts, ht, hcons⟩

theorem cutAt_of_not_mem (h : sep ∉ s) : cutAt sep s = [s] := by
  obtain ⟨part, parts, hnil, hs⟩ := cutAt_append h []
  obtain ⟨rfl, rfl⟩ := List.cons.inj hnil
  simpa using hs

/-- Parts are found again. -/
theorem cutAt_intercalate_of_not_mem {parts : List (List α)} (h : parts ≠ []) (hparts : ∀ part ∈ parts, sep ∉ part) :
    cutAt sep ([sep].intercalate parts) = parts := by
  have hsame : parts.map (cutAt sep) = parts.map ([·]) :=
    List.map_congr_left fun part hpart => cutAt_of_not_mem (hparts part hpart)
  rw [cutAt_intercalate h, List.flatMap_def, hsame, ← List.flatMap_def, List.flatMap_singleton']

theorem cutAt_map {f : α → β} {sep' : β} (hf : ∀ c, f c = sep' ↔ c = sep) (s : List α) :
    cutAt sep' (s.map f) = (cutAt sep s).map (·.map f) := by
  induction s with
  | nil => rfl
  | cons c s ih =>
    by_cases hc : c = sep
    · rw [List.map_cons, cutAt, if_pos ((hf c).2 hc), ih, cutAt, if_pos hc]
      rfl
    · obtain ⟨part, parts, hs, hcons⟩ := exists_cutAt_cons hc s
      rw [List.map_cons, cutAt, if_neg fun h => hc ((hf c).1 h), ih, hs, hcons]
      rfl

/-- A part holds what the text does, but nothing to cut at. -/
theorem of_mem_cutAt (h : part ∈ cutAt sep s) : ∀ c ∈ part, c ∈ s ∧ c ≠ sep := by
  induction s generalizing part with
  | nil =>
    rw [List.mem_singleton.1 h]
    exact nofun
  | cons c s ih =>
    have hlater {part : List α} (hpart : part ∈ cutAt sep s) : ∀ d ∈ part, d ∈ c :: s ∧ d ≠ sep := fun d hd =>
      (ih hpart d hd).imp_left (List.mem_cons_of_mem c)
    by_cases hc : c = sep
    · rw [cutAt, if_pos hc] at h
      rcases List.mem_cons.1 h with rfl | h
      · exact nofun
      · exact hlater h
    · obtain ⟨first, parts, hs, hcons⟩ := exists_cutAt_cons hc s
      rw [hcons] at h
      rcases List.mem_cons.1 h with rfl | h
      · exact List.forall_mem_cons.2 ⟨⟨List.mem_cons_self, hc⟩, hlater (hs ▸ List.mem_cons_self)⟩
      · exact hlater (hs ▸ List.mem_cons_of_mem _ h)

end QueryAudit.Text
