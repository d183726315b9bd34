import QueryAudit.Deployment
import QueryAudit.Proofs.Cut
import QueryAudit.Proofs.Quoted
/-!
# The display of a deployment hides the token and nothing else

`display_eq_iff_looksLike`: both display forms tell everything but the token, of which they tell whether there is
one. No field can imitate the ones behind it, and the form on one line stays on one line.
-/

namespace QueryAudit.Deployment

open Text

/-- Two deployments that differ in nothing but what the token is. -/
structure LooksLike (d e : Deployment) : Prop where
  endpoint : d.endpoint = e.endpoint
  index : d.index = e.index
  host : d.host = e.host
  podNamespace : d.podNamespace = e.podNamespace
  pod : d.pod = e.pod
  token : d.token = "" ↔ e.token = ""

/-- The characters at which a line may end. -/
def lineBreaks : List Char := ['\n', '\x0b', '\x0c', '\r', '\u0085', '\u2028', '\u2029']

variable {d e : Deployment}

/-! ## What is shown -/

theorem redactedToken_eq_iff : d.redactedToken = e.redactedToken ↔ (d.token = "" ↔ e.token = "") := by
  unfold redactedToken
  by_cases hd : d.token = ""
  · by_cases he : e.token = ""
    · simp [hd, he]
    · simp [hd, he]
  · by_cases he : e.token = ""
    · simp [hd, he]
    · simp [hd, he]

theorem shown_eq_iff : (∀ f ∈ Field.all, d.shown f = e.shown f) ↔ LooksLike d e := by
  constructor
  · intro h
    exact {
      endpoint := h .endpoint (by decide)
      index := h .index (by decide)
      host := h .host (by decide)
      podNamespace := h .podNamespace (by decide)
      pod := h .pod (by decide)
      token := redactedToken_eq_iff.1 (h .token (by decide)) }
  · intro h f _
    cases f with
    | endpoint => exact h.endpoint
    | token => exact redactedToken_eq_iff.2 h.token
    | index => exact h.index
    | host => exact h.host
    | podNamespace => exact h.podNamespace
    | pod => exact h.pod

/-! ## Rows -/

/-- A field with its name in front. -/
def row (d : Deployment) (f : Field) : List Char := f.key.toList ++ ": ".toList ++ quote (d.shown f).toList

theorem row_append_inj {f : Field} {x y : List Char} (h : d.row f ++ x = e.row f ++ y) :
    d.shown f = e.shown f ∧ x = y := by
  simp only [row, List.append_assoc, List.append_cancel_left_eq] at h
  obtain ⟨hshown, htail⟩ := quote_append_inj h
  exact ⟨String.toList_inj.1 hshown, htail⟩

/-- Rows between separators are told apart one by one. -/
theorem rows_append_inj (separator : List Char) {fs : List Field} {x y : List Char}
    (h : separator.intercalate (fs.map d.row) ++ x = separator.intercalate (fs.map e.row) ++ y) :
    (∀ f ∈ fs, d.shown f = e.shown f) ∧ x = y := by
  induction fs with
  | nil => exact ⟨nofun, h⟩
  | cons f fs ih =>
    cases fs with
    | nil =>
      simp only [List.map_cons, List.map_nil, List.intercalate_singleton] at h
      obtain ⟨hf, htail⟩ := row_append_inj h
      exact ⟨List.forall_mem_singleton.2 hf, htail⟩
    | cons g fs =>
      simp only [List.map_cons, List.intercalate_cons_cons, List.append_assoc] at h ih
      obtain ⟨hf, hmore⟩ := row_append_inj h
      obtain ⟨hfs, htail⟩ := ih (List.append_cancel_left hmore)
      exact ⟨List.forall_mem_cons.2 ⟨hf, hfs⟩, htail⟩

theorem toList_display (d : Deployment) : d.display.toList =
    title.toList ++ " \x7b ".toList ++ ", ".toList.intercalate (Field.all.map d.row) ++ " \x7d".toList := by
  simp only [display, String.toList_append, String.toList_intercalate, List.map_map]
  congr 4
  funext f
  simp only [Function.comp_apply, String.toList_append, quoted, String.toList_ofList, row]

/-- The form with a line for each field differs from the other one in its separators only. -/
theorem toList_displayLines (d : Deployment) : d.displayLines.toList =
    title.toList ++ " \x7b\n    ".toList ++ ",\n    ".toList.intercalate (Field.all.map d.row) ++ ",\n\x7d".toList := by
  have hopen : " \x7b\n    ".toList = " \x7b\n".toList ++ "    ".toList := rfl
  have hbetween : ",\n    ".toList = ",\n".toList ++ "    ".toList := rfl
  have hclose : ",\n\x7d".toList = ",\n".toList ++ "\x7d".toList := rfl
  simp only [displayLines, hopen, hbetween, hclose, String.toList_append, String.toList_join, Field.all, List.map_cons,
    List.map_nil, List.flatMap_cons, List.flatMap_nil, List.intercalate_cons_cons, List.intercalate_singleton, row,
    quoted, String.toList_ofList, List.append_assoc, List.nil_append]

/-! ## Display forms -/

theorem shown_of_display (h : d.display = e.display) : ∀ f ∈ Field.all, d.shown f = e.shown f := by
  have hlist : d.display.toList = e.display.toList := by rw [h]
  simp only [toList_display, List.append_assoc, List.append_cancel_left_eq] at hlist
  exact (rows_append_inj _ hlist).1

theorem shown_of_displayLines (h : d.displayLines = e.displayLines) : ∀ f ∈ Field.all, d.shown f = e.shown f := by
  have hlist : d.displayLines.toList = e.displayLines.toList := by rw [h]
  simp only [toList_displayLines, List.append_assoc, List.append_cancel_left_eq] at hlist
  exact (rows_append_inj _ hlist).1

theorem display_congr (h : ∀ f ∈ Field.all, d.shown f = e.shown f) : d.display = e.display := by
  unfold display
  rw [List.map_congr_left fun f hf => by rw [h f hf]]

theorem displayLines_congr (h : ∀ f ∈ Field.all, d.shown f = e.shown f) : d.displayLines = e.displayLines := by
  unfold displayLines
  rw [List.map_congr_left fun f hf => by rw [h f hf]]

/-- Everything on the one line can be seen. -/
theorem isUnprintable_of_mem_display {c : Char} (h : c ∈ d.display.toList) : isUnprintable c = false := by
  have ascii {s : List Char} {c : Char} (hs : s.all (fun b => decide (0x20 ≤ b.toNat ∧ b.toNat < 0x7F)) = true)
      (hc : c ∈ s) : isUnprintable c = false := by
    have hc : 0x20 ≤ c.toNat ∧ c.toNat < 0x7F := of_decide_eq_true (List.all_eq_true.1 hs c hc)
    exact isUnprintable_of_ascii hc.1 hc.2
  have hrow {f : Field} {c : Char} (hc : c ∈ d.row f) : isUnprintable c = false := by
    simp only [row, List.mem_append] at hc
    rcases hc with (hc | hc) | hc
    · exact ascii (by cases f <;> decide) hc
    · exact ascii (by decide) hc
    · exact isUnprintable_of_mem_quote hc
  simp only [toList_display, List.mem_append] at h
  rcases h with ((h | h) | h) | h
  · exact ascii (by decide) h
  · exact ascii (by decide) h
  · refine forall_mem_intercalate (P := fun c => isUnprintable c = false) (fun c hc => ?_) (fun r hr c hc => ?_) c h
    · exact ascii (by decide) hc
    · obtain ⟨f, -, rfl⟩ := List.mem_map.1 hr
      exact hrow hc
  · exact ascii (by decide) h

/-- The display forms hide exactly the token: two deployments look the same in either of them if and only if they
differ in nothing but what the token is. No field, whatever it holds, brings a line break into the form on one
line. -/
theorem display_eq_iff_looksLike (d e : Deployment) :
    (d.display = e.display ↔ LooksLike d e) ∧ (d.displayLines = e.displayLines ↔ LooksLike d e) ∧
      ∀ c ∈ lineBreaks, c ∉ d.display.toList := by
  have hbreaks : lineBreaks.all isUnprintable = true := by decide +kernel
  refine ⟨⟨fun h => shown_eq_iff.1 (shown_of_display h), fun h => display_congr (shown_eq_iff.2 h)⟩,
    ⟨fun h => shown_eq_iff.1 (shown_of_displayLines h), fun h => displayLines_congr (shown_eq_iff.2 h)⟩, ?_⟩
  intro c hc hmem
  have hseen := isUnprintable_of_mem_display hmem
  rw [List.all_eq_true.1 hbreaks c hc] at hseen
  cases hseen

end QueryAudit.Deployment
