import QueryAudit.Proofs.Url.Escapes
import QueryAudit.Url.Address
/-!
# Tidying

`thins_tidy`: a text loses nothing but blanks when it is tidied. What blanks are not part of is there afterwards as it
was before: the marks that divide a text into parts, and every escape. `tidy_append`: two parts of a text are tidied
each for itself, if neither is all blank.
-/

namespace QueryAudit.Url

/-- A text with some of its blanks taken out. -/
inductive Thins : List Char → List Char → Prop
  | nil : Thins [] []
  | keep {c s t} : Thins s t → Thins (c :: s) (c :: t)
  | drop {c s t} : c.toNat ≤ 0x20 → Thins s t → Thins (c :: s) t

namespace Thins

variable {s t u : List Char}

theorem refl (s : List Char) : Thins s s := by
  induction s with
  | nil => exact .nil
  | cons c s ih => exact .keep ih

theorem trans (h : Thins s t) (h' : Thins t u) : Thins s u := by
  induction h generalizing u with
  | nil => exact h'
  | keep _ ih =>
    cases h' with
    | keep h' => exact .keep (ih h')
    | drop hc h' => exact .drop hc (ih h')
  | drop hc _ ih => exact .drop hc (ih h')

theorem mem (h : Thins s t) {c : Char} (hc : c ∈ t) : c ∈ s := by
  induction h with
  | nil => exact hc
  | keep _ ih => exact List.mem_cons.2 ((List.mem_cons.1 hc).imp_right ih)
  | drop _ _ ih => exact List.mem_cons_of_mem _ (ih hc)

theorem dropWhile_isTrimmed (s : List Char) : Thins s (s.dropWhile isTrimmed) := by
  induction s with
  | nil => exact .nil
  | cons c s ih =>
    rw [List.dropWhile_cons]
    split
    · next hc => exact .drop (by simpa [isTrimmed] using hc) ih
    · exact .refl _

theorem append_of_isTrimmed (s : List Char) (ht : ∀ c ∈ t, isTrimmed c = true) : Thins (s ++ t) s := by
  induction s with
  | nil =>
    induction t with
    | nil => exact .nil
    | cons c t ih =>
      rw [List.forall_mem_cons] at ht
      exact .drop (by simpa [isTrimmed] using ht.1) (ih ht.2)
  | cons c s ih => exact .keep ih

theorem reverse_dropWhile_isTrimmed (s : List Char) : Thins s (s.reverse.dropWhile isTrimmed).reverse := by
  have hs : (s.reverse.dropWhile isTrimmed).reverse ++ (s.reverse.takeWhile isTrimmed).reverse = s := by
    rw [← List.reverse_append, List.takeWhile_append_dropWhile, List.reverse_reverse]
  have h := append_of_isTrimmed (t := (s.reverse.takeWhile isTrimmed).reverse) (s.reverse.dropWhile isTrimmed).reverse
    fun c hc => List.mem_takeWhile_imp (List.mem_reverse.1 hc)
  rwa [hs] at h

theorem filter_isDropped (s : List Char) : Thins s (s.filter (!isDropped ·)) := by
  induction s with
  | nil => exact .nil
  | cons c s ih =>
    rw [List.filter_cons]
    split
    · exact .keep ih
    · next hc =>
      have hblank : isDropped c = true := by simpa using hc
      simp only [isDropped, Bool.or_eq_true, beq_iff_eq] at hblank
      exact .drop (by rcases hblank with (rfl | rfl) | rfl <;> decide) ih

/-- Blanks are in no escape. -/
theorem escaped (h : Thins s t) (hs : Escaped s) : Escaped t := by
  have hdigit {a : Char} (ha : IsHexDigit a) : ¬a.toNat ≤ 0x20 := by
    exact forall_ascii (P := fun a => IsHexDigit a → ¬a.toNat ≤ 0x20) (by decide) ha.toNat_lt ha
  induction hs generalizing t with
  | nil =>
    cases h
    exact .nil
  | plain hc _ ih =>
    cases h with
    | keep h => exact .plain hc (ih h)
    | drop _ h => exact ih h
  | escape ha hb _ ih =>
    cases h with
    | drop hc => exact absurd hc (by decide)
    | keep h =>
      cases h with
      | drop hc => exact absurd hc (hdigit ha)
      | keep h =>
        cases h with
        | drop hc => exact absurd hc (hdigit hb)
        | keep h => exact .escape ha hb (ih h)

theorem takeWhile (h : Thins s t) {p : Char → Bool} (hp : ∀ c, c.toNat ≤ 0x20 → p c = true) :
    Thins (s.takeWhile p) (t.takeWhile p) := by
  induction h with
  | nil => exact .nil
  | @keep c s t _ ih =>
    rw [List.takeWhile_cons, List.takeWhile_cons]
    split
    · exact .keep ih
    · exact .nil
  | @drop c s t hc _ ih =>
    rw [List.takeWhile_cons, if_pos (hp c hc)]
    exact .drop hc ih

theorem dropWhile (h : Thins s t) {p : Char → Bool} (hp : ∀ c, c.toNat ≤ 0x20 → p c = true) :
    Thins (s.dropWhile p) (t.dropWhile p) := by
  induction h with
  | nil => exact .nil
  | @keep c s t h ih =>
    rw [List.dropWhile_cons, List.dropWhile_cons]
    split
    · exact ih
    · exact .keep h
  | @drop c s t hc _ ih =>
    rw [List.dropWhile_cons, if_pos (hp c hc)]
    exact ih

end Thins

/-! ## Two parts of a text -/

/-- A text without the blanks that count for nothing at the start of an address or inside it. -/
def tidyStart (s : List Char) : List Char := (s.dropWhile isTrimmed).filter (!isDropped ·)

/-- A text without the blanks that count for nothing at the end of an address or inside it. -/
def tidyEnd (s : List Char) : List Char := ((s.reverse.dropWhile isTrimmed).reverse).filter (!isDropped ·)

section parts

variable {s t : List Char} {c : Char}

theorem isTrimmed_eq_false_iff : isTrimmed c = false ↔ 0x20 < c.toNat := by
  rw [isTrimmed, decide_eq_false_iff_not, Nat.not_le]

theorem isDropped_of_isTrimmed_eq_false (h : isTrimmed c = false) : isDropped c = false := by
  rw [isTrimmed_eq_false_iff] at h
  simp only [isDropped, Bool.or_eq_false_iff, beq_eq_false_iff_ne]
  refine ⟨⟨?_, ?_⟩, ?_⟩
  all_goals
    rintro rfl
    exact absurd h (by decide)

theorem tidy_append (hs : ∃ c ∈ s, isTrimmed c = false) (ht : ∃ c ∈ t, isTrimmed c = false) :
    tidy (s ++ t) = tidyStart s ++ tidyEnd t := by
  have hstop {u v : List Char} (hu : ∃ c ∈ u, isTrimmed c = false) :
      (u ++ v).dropWhile isTrimmed = u.dropWhile isTrimmed ++ v := by
    obtain ⟨c, hc, hblank⟩ := hu
    rw [List.dropWhile_append, if_neg]
    intro hnil
    rw [List.dropWhile_eq_nil_iff.1 (List.isEmpty_iff.1 hnil) c hc] at hblank
    cases hblank
  obtain ⟨c, hc, hblank⟩ := ht
  rw [tidy, hstop hs, List.reverse_append, hstop ⟨c, List.mem_reverse.2 hc, hblank⟩, List.reverse_append,
    List.reverse_reverse, List.filter_append]
  rfl

/-- A text that does not end in a blank has none to lose at its end. -/
theorem tidy_eq_tidyStart (h : ∀ c ∈ s.getLast?, isTrimmed c = false) : tidy s = tidyStart s := by
  have hsame : (s.dropWhile isTrimmed).reverse.dropWhile isTrimmed = (s.dropWhile isTrimmed).reverse := by
    cases hdrop : (s.dropWhile isTrimmed).reverse with
    | nil => rfl
    | cons c u =>
      have hlast : s.getLast? = some c := by
        have hc : (s.dropWhile isTrimmed).getLast? = some c := by rw [← List.head?_reverse, hdrop, List.head?_cons]
        rw [← List.takeWhile_append_dropWhile (p := isTrimmed) (l := s), List.getLast?_append, hc, Option.some_or]
      rw [List.dropWhile_cons_of_neg (by simp [h c hlast])]
  rw [tidy, hsame, List.reverse_reverse]
  rfl

/-- Behind a start that is no blank only tabs and line breaks are lost. -/
theorem tidyStart_append (hs : ∀ c ∈ s, isTrimmed c = false) (hne : s ≠ []) (t : List Char) :
    tidyStart (s ++ t) = s ++ t.filter (!isDropped ·) := by
  obtain ⟨c, s, rfl⟩ := List.exists_cons_of_ne_nil hne
  have hstart : (c :: s ++ t).dropWhile isTrimmed = c :: s ++ t := by
    rw [List.cons_append, List.dropWhile_cons_of_neg (by simp [hs c List.mem_cons_self])]
  rw [tidyStart, hstart, List.filter_append]
  congr 1
  exact List.filter_eq_self.2 fun c hc => by simp [isDropped_of_isTrimmed_eq_false (hs c hc)]

theorem tidy_eq_self (h : ∀ c ∈ s, isTrimmed c = false) : tidy s = s := by
  rw [tidy_eq_tidyStart fun c hc => h c (List.mem_of_mem_getLast? hc)]
  by_cases hne : s = []
  · rw [hne]
    rfl
  · simpa using tidyStart_append h hne []

theorem mem_of_mem_tidyEnd (h : c ∈ tidyEnd s) : c ∈ s :=
  ((Thins.reverse_dropWhile_isTrimmed s).trans (Thins.filter_isDropped _)).mem h

/-- A character that is no blank stays where it is in front of what is tidied at the end. -/
theorem tidyEnd_cons (h : isTrimmed c = false) (s : List Char) : tidyEnd (c :: s) = c :: tidyEnd s := by
  have hstop : (s.reverse ++ [c]).dropWhile isTrimmed = s.reverse.dropWhile isTrimmed ++ [c] :=
    dropWhile_append_of_head? (by simpa using h) _
  rw [tidyEnd, List.reverse_cons, hstop, List.reverse_append, List.reverse_singleton, List.singleton_append,
    List.filter_cons, isDropped_of_isTrimmed_eq_false h]
  rfl

end parts

theorem thins_tidy (s : List Char) : Thins s (tidy s) :=
  (Thins.dropWhile_isTrimmed s).trans ((Thins.reverse_dropWhile_isTrimmed _).trans (Thins.filter_isDropped _))

end QueryAudit.Url
