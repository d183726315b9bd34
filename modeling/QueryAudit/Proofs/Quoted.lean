import QueryAudit.Proofs.Numeral
import QueryAudit.Text.Quoted
/-!
# Quoted text is unambiguous

`quote_append_inj`: two quoted texts are told apart whatever stands behind them, also where a text imitates its
own closing quotation mark and what follows. `isUnprintable_of_mem_quote`: whatever a text holds, every character
of its quoted form can be seen.
-/

namespace QueryAudit.Text

/-- The characters that are escaped by a letter. -/
def letters : List (Char × Char) :=
  [('\x00', '0'), ('\t', 't'), ('\r', 'r'), ('\n', 'n'), ('\\', '\\'), ('"', '"')]

/-- How a character appears inside a quoted text. -/
inductive Appears : Char → List Char → Prop
  | letter {c e} : (c, e) ∈ letters → Appears c ['\\', e]
  | number {c} : Appears c (numericEscape c)
  | plain {c} : c ≠ '\\' → c ≠ '"' → isUnprintable c = false → Appears c [c]

theorem appears_quoteChar (c : Char) : Appears c (quoteChar c) := by
  unfold quoteChar
  split
  · next h => exact .letter (by simp [h, letters])
  split
  · next h => exact .letter (by simp [h, letters])
  split
  · next h => exact .letter (by simp [h, letters])
  split
  · next h => exact .letter (by simp [h, letters])
  split
  · next h => exact .letter (by simp [h, letters])
  split
  · next h => exact .letter (by simp [h, letters])
  split
  · exact .number
  · next hslash hquote hprintable => exact .plain hslash hquote (Bool.eq_false_iff.2 hprintable)

/-! ## Characters -/

theorem letter_inj : ∀ p ∈ letters, ∀ q ∈ letters, p.2 = q.2 → p.1 = q.1 := by decide

theorem letter_ne_u : ∀ p ∈ letters, p.2 ≠ 'u' := by decide

/-- Only hexadecimal digits stand in an escape by number, and no brace. -/
theorem ne_brace_of_mem_hex {n : Nat} {c : Char} (h : c ∈ Numeral.hex n) : c ≠ '\x7d' := by
  rintro rfl
  exact absurd (Numeral.isSome_hexDigit?_of_mem_toDigits (by decide) (by decide) h) (by decide)

theorem hex_inj {m n : Nat} (h : Numeral.hex m = Numeral.hex n) : m = n := by
  have hread (k : Nat) : Numeral.ofChars? 16 (Nat.toDigits 16 k) = some k :=
    Numeral.ofChars?_toDigits (by decide) (by decide) k
  rw [Numeral.hex, Numeral.hex] at h
  exact Option.some.inj (by rw [← hread m, h, hread n])

theorem numericEscape_append_inj {c d : Char} {x y : List Char} (h : numericEscape c ++ x = numericEscape d ++ y) :
    c = d ∧ x = y := by
  have hbehind : Numeral.hex c.toNat ++ '\x7d' :: x = Numeral.hex d.toNat ++ '\x7d' :: y := by
    simpa [numericEscape] using h
  -- The digits are all there is up to the brace.
  have digits (n : Nat) (tail : List Char) :
      (Numeral.hex n ++ '\x7d' :: tail).takeWhile (· != '\x7d') = Numeral.hex n := by
    rw [List.takeWhile_append_of_pos fun e he => by simpa using ne_brace_of_mem_hex he]
    simp
  have hhex : Numeral.hex c.toNat = Numeral.hex d.toNat := by rw [← digits _ x, hbehind, digits]
  rw [hhex] at hbehind
  exact ⟨Char.toNat_inj.1 (hex_inj hhex), (List.cons.inj (List.append_cancel_left hbehind)).2⟩

namespace Appears

variable {c d : Char} {cs ds x y : List Char}

/-- No character begins with the mark that ends the text. -/
theorem ne_mark (h : Appears c cs) : cs ++ x ≠ '"' :: y := by
  intro he
  cases h with
  | letter => cases he
  | number => cases he
  | plain _ hquote => exact hquote (List.cons.inj he).1

/-- No character is the beginning of another one. -/
theorem append_inj (h : Appears c cs) (h' : Appears d ds) (he : cs ++ x = ds ++ y) : c = d ∧ x = y := by
  cases h with
  | letter hc =>
    cases h' with
    | letter hd =>
      simp only [List.cons_append, List.nil_append, List.cons.injEq, true_and] at he
      exact ⟨letter_inj _ hc _ hd he.1, he.2⟩
    | number => exact absurd (List.cons.inj (List.cons.inj he).2).1 (letter_ne_u _ hc)
    | plain hd => exact absurd (List.cons.inj he).1.symm hd
  | number =>
    cases h' with
    | letter hd => exact absurd (List.cons.inj (List.cons.inj he).2).1.symm (letter_ne_u _ hd)
    | number => exact numericEscape_append_inj he
    | plain hd => exact absurd (List.cons.inj he).1.symm hd
  | plain hc =>
    cases h' with
    | letter => exact absurd (List.cons.inj he).1 hc
    | number => exact absurd (List.cons.inj he).1 hc
    | plain => exact List.cons.inj he

end Appears

/-! ## Texts -/

/-- A quoted text ends at its own closing mark. -/
theorem quote_append_inj {s t x y : List Char} (h : quote s ++ x = quote t ++ y) : s = t ∧ x = y := by
  have hinside : s.flatMap quoteChar ++ '"' :: x = t.flatMap quoteChar ++ '"' :: y := by simpa [quote] using h
  clear h
  induction s generalizing t with
  | nil =>
    cases t with
    | nil => exact ⟨rfl, (List.cons.inj hinside).2⟩
    | cons d t =>
      rw [List.flatMap_cons, List.append_assoc] at hinside
      exact absurd hinside.symm (appears_quoteChar d).ne_mark
  | cons c s ih =>
    rw [List.flatMap_cons, List.append_assoc] at hinside
    cases t with
    | nil => exact absurd hinside (appears_quoteChar c).ne_mark
    | cons d t =>
      rw [List.flatMap_cons, List.append_assoc] at hinside
      obtain ⟨rfl, hmore⟩ := (appears_quoteChar c).append_inj (appears_quoteChar d) hinside
      obtain ⟨rfl, htail⟩ := ih hmore
      exact ⟨rfl, htail⟩

/-! ## What can be seen -/

theorem letter_printable : ∀ p ∈ letters, 0x20 ≤ p.2.toNat ∧ p.2.toNat < 0x7F := by decide

theorem isUnprintable_of_mem_hex {n : Nat} {c : Char} (h : c ∈ Numeral.hex n) : isUnprintable c = false := by
  have hdigit := Numeral.isSome_hexDigit?_of_mem_toDigits (by decide) (by decide) h
  have hrange : 0x20 ≤ c.toNat ∧ c.toNat < 0x7F := by
    unfold Numeral.hexDigit? at hdigit
    simp only [Char.le_def, UInt32.le_iff_toNat_le] at hdigit
    split at hdigit
    · next h => exact ⟨Nat.le_trans (by decide) h.1, Nat.lt_of_le_of_lt h.2 (by decide)⟩
    split at hdigit
    · next h => exact ⟨Nat.le_trans (by decide) h.1, Nat.lt_of_le_of_lt h.2 (by decide)⟩
    split at hdigit
    · next h => exact ⟨Nat.le_trans (by decide) h.1, Nat.lt_of_le_of_lt h.2 (by decide)⟩
    · cases hdigit
  exact isUnprintable_of_ascii hrange.1 hrange.2

theorem Appears.printable {c d : Char} {cs : List Char} (h : Appears c cs) (hd : d ∈ cs) : isUnprintable d = false := by
  have hslash : isUnprintable '\\' = false := isUnprintable_of_ascii (by decide) (by decide)
  cases h with
  | letter he =>
    rcases List.mem_cons.1 hd with rfl | hd
    · exact hslash
    · rw [List.mem_singleton.1 hd]
      exact isUnprintable_of_ascii (letter_printable _ he).1 (letter_printable _ he).2
  | number =>
    simp only [numericEscape, List.cons_append, List.nil_append, List.mem_cons, List.mem_append, List.not_mem_nil,
      or_false] at hd
    rcases hd with rfl | rfl | rfl | hd | rfl
    · exact hslash
    · exact isUnprintable_of_ascii (by decide) (by decide)
    · exact isUnprintable_of_ascii (by decide) (by decide)
    · exact isUnprintable_of_mem_hex hd
    · exact isUnprintable_of_ascii (by decide) (by decide)
  | plain _ _ hprintable => rwa [List.mem_singleton.1 hd]

theorem isUnprintable_of_mem_quote {s : List Char} {c : Char} (h : c ∈ quote s) : isUnprintable c = false := by
  have hmark : isUnprintable '"' = false := isUnprintable_of_ascii (by decide) (by decide)
  simp only [quote, List.cons_append, List.mem_cons, List.mem_append, List.mem_flatMap, List.not_mem_nil,
    or_false] at h
  rcases h with rfl | ⟨d, -, hd⟩ | rfl
  · exact hmark
  · exact (appears_quoteChar d).printable hd
  · exact hmark

end QueryAudit.Text
