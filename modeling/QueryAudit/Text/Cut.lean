/-!
# Cutting text

A text is cut at every occurrence of one character, or octets at every occurrence of one octet. There is
always at least one part, and joining the parts with what was cut away gives the text back.
-/

namespace QueryAudit.Text

variable {α : Type} [DecidableEq α]

/-- The parts of a text between the occurrences of `sep`. -/
def cutAt (sep : α) : List α → List (List α)
  | [] => [[]]
  | c :: rest =>
    if c = sep then [] :: cutAt sep rest
    else
      match cutAt sep rest with
      | [] => [[c]]
      | part :: parts => (c :: part) :: parts

theorem cutAt_ne_nil (sep : α) (s : List α) : cutAt sep s ≠ [] := by
  cases s with
  | nil => simp [cutAt]
  | cons c rest =>
    simp only [cutAt]
    split
    · simp
    · split <;> simp

/-- Nothing is lost. -/
theorem intercalate_cutAt (sep : α) (s : List α) : [sep].intercalate (cutAt sep s) = s := by
  induction s with
  | nil => rfl
  | cons c rest ih =>
    obtain ⟨part, parts, h⟩ := List.exists_cons_of_ne_nil (cutAt_ne_nil sep rest)
    simp only [cutAt, h] at ih ⊢
    split
    · next hc =>
      subst hc
      rw [List.intercalate_cons_cons, ih]
      rfl
    · cases parts with
      | nil => simpa using ih
      | cons p ps =>
        rw [List.intercalate_cons_cons] at ih ⊢
        simp only [List.cons_append]
        rw [ih]

end QueryAudit.Text
