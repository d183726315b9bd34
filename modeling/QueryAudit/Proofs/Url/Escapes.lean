import Mathlib.Data.List.TakeWhile
import QueryAudit.Text.Cut
import QueryAudit.Url.Percent
/-!
# Escapes

A text is escaped if two hexadecimal digits follow each of its percent signs; `escaped_iff_forall` says so for every
single percent sign. An escape is never torn apart at a character that is no digit, and encoding makes no stray sign.
-/

namespace QueryAudit.Url

/-- A hexadecimal digit in either case. -/
def IsHexDigit (c : Char) : Prop := '0' ≤ c ∧ c ≤ '9' ∨ 'a' ≤ c ∧ c ≤ 'f' ∨ 'A' ≤ c ∧ c ≤ 'F'

instance : DecidablePred IsHexDigit := fun c =>
  inferInstanceAs (Decidable ('0' ≤ c ∧ c ≤ '9' ∨ 'a' ≤ c ∧ c ≤ 'f' ∨ 'A' ≤ c ∧ c ≤ 'F'))

theorem isSome_hexDigit?_iff {c : Char} : (Numeral.hexDigit? c).isSome = true ↔ IsHexDigit c := by
  unfold Numeral.hexDigit? IsHexDigit
  split
  · next h => simp [h]
  split
  · next h => simp [h]
  split
  · next h => simp [h]
  · simp [*]

theorem not_isHexDigit_percent : ¬IsHexDigit '%' := by decide

/-- What holds of all characters of ASCII is found out one by one. -/
theorem forall_ascii {P : Char → Prop} (h : ∀ n, n < 0x80 → P (Char.ofNat n)) {c : Char} (hc : c.toNat < 0x80) : P c := by
  have hchar := h c.toNat hc
  rwa [Char.ofNat_toNat] at hchar

theorem IsHexDigit.toNat_lt {c : Char} (h : IsHexDigit c) : c.toNat < 0x80 := by
  have hle : c ≤ 'f' := by
    rcases h with ⟨-, h⟩ | ⟨-, h⟩ | ⟨-, h⟩
    · exact Char.le_trans h (by decide)
    · exact h
    · exact Char.le_trans h (by decide)
  exact Nat.lt_of_le_of_lt hle (by decide)

/-- A text that begins with two hexadecimal digits. -/
def BeginsWithDigits (s : List Char) : Prop := ∃ a b rest, s = a :: b :: rest ∧ IsHexDigit a ∧ IsHexDigit b

/-- Two hexadecimal digits follow each percent sign. -/
inductive Escaped : List Char → Prop
  | nil : Escaped []
  | plain {c s} : c ≠ '%' → Escaped s → Escaped (c :: s)
  | escape {a b s} : IsHexDigit a → IsHexDigit b → Escaped s → Escaped ('%' :: a :: b :: s)

theorem eq_false_of_mem_head?_dropWhile {p : Char → Bool} {s : List Char} {c : Char} (h : c ∈ (s.dropWhile p).head?) :
    p c = false := by
  have hhead := List.head?_dropWhile_not p s
  rw [Option.mem_def.1 h] at hhead
  simpa using hhead

/-- What begins outside a class stops the front of a text that is in the class. -/
theorem dropWhile_append_of_head? {p : Char → Bool} {t : List Char} (ht : ∀ c ∈ t.head?, p c = false) (s : List Char) :
    (s ++ t).dropWhile p = s.dropWhile p ++ t := by
  rw [List.dropWhile_append]
  split
  · next hnil =>
    rw [List.isEmpty_iff.1 hnil, List.nil_append]
    cases t with
    | nil => rfl
    | cons c t => rw [List.dropWhile_cons_of_neg (by simp [ht c rfl])]
  · rfl

namespace Escaped

variable {s t : List Char}

theorem of_not_mem (h : '%' ∉ s) : Escaped s := by
  induction s with
  | nil => exact .nil
  | cons c s ih =>
    rw [List.mem_cons, not_or] at h
    exact .plain (Ne.symm h.1) (ih h.2)

theorem append (hs : Escaped s) (ht : Escaped t) : Escaped (s ++ t) := by
  induction hs with
  | nil => exact ht
  | plain hc _ ih => exact .plain hc ih
  | escape ha hb _ ih => exact .escape ha hb ih

theorem flatten {ss : List (List Char)} (h : ∀ s ∈ ss, Escaped s) : Escaped ss.flatten := by
  induction ss with
  | nil => exact .nil
  | cons s ss ih =>
    rw [List.forall_mem_cons] at h
    exact h.1.append (ih h.2)

/-- What stands behind a text without percent signs. -/
theorem of_append (h : Escaped (s ++ t)) (hs : '%' ∉ s) : Escaped t := by
  induction s with
  | nil => exact h
  | cons c s ih =>
    rw [List.mem_cons, not_or] at hs
    generalize hw : c :: s ++ t = w at h
    cases h with
    | nil => cases hw
    | plain _ h =>
      cases hw
      exact ih h hs.2
    | escape => exact absurd (List.cons.inj hw).1.symm hs.1

theorem of_cons {c : Char} (h : Escaped (c :: s)) (hc : c ≠ '%') : Escaped s :=
  of_append (s := [c]) h (by simpa using Ne.symm hc)

/-- A character that is no digit stands outside every escape, so that a text falls apart there. -/
theorem split {c : Char} (h : Escaped (s ++ c :: t)) (hc : ¬IsHexDigit c) : Escaped s ∧ Escaped (c :: t) := by
  generalize hw : s ++ c :: t = w at h
  induction h generalizing s with
  | nil => simp at hw
  | @plain d u hd hu ih =>
    rcases List.append_eq_cons_iff.1 hw with ⟨rfl, hcons⟩ | ⟨s', rfl, hu'⟩
    · exact ⟨.nil, hcons ▸ .plain hd hu⟩
    · obtain ⟨hs', ht⟩ := ih hu'.symm
      exact ⟨.plain hd hs', ht⟩
  | @escape a b u ha hb hu ih =>
    -- The text ends before the escape or behind it, since what follows the text is no digit.
    rcases List.append_eq_cons_iff.1 hw with ⟨rfl, hcons⟩ | ⟨s₁, rfl, h₁⟩
    · exact ⟨.nil, hcons ▸ .escape ha hb hu⟩
    rcases List.append_eq_cons_iff.1 h₁.symm with ⟨rfl, hcons⟩ | ⟨s₂, rfl, h₂⟩
    · cases hcons
      exact absurd ha hc
    rcases List.append_eq_cons_iff.1 h₂.symm with ⟨rfl, hcons⟩ | ⟨s₃, rfl, h₃⟩
    · cases hcons
      exact absurd hb hc
    obtain ⟨hs₃, ht⟩ := ih h₃.symm
    exact ⟨.escape ha hb hs₃, ht⟩

/-- Two texts of which the second does not begin with a digit. -/
theorem split_append (h : Escaped (s ++ t)) (ht : ∀ c ∈ t.head?, ¬IsHexDigit c) : Escaped s ∧ Escaped t := by
  cases t with
  | nil =>
    rw [List.append_nil] at h
    exact ⟨h, .nil⟩
  | cons c t => exact h.split (ht c rfl)

/-- A text and its end from the first character on that is not in a class, if all others are no digits. -/
theorem takeWhile_dropWhile (h : Escaped s) {p : Char → Bool} (hp : ∀ c, p c = false → ¬IsHexDigit c) :
    Escaped (s.takeWhile p) ∧ Escaped (s.dropWhile p) := by
  rw [← List.takeWhile_append_dropWhile (p := p) (l := s)] at h
  exact h.split_append fun c hc => hp c (eq_false_of_mem_head?_dropWhile hc)

theorem map (h : Escaped s) {f : Char → Char} (hdigit : ∀ c, IsHexDigit c → IsHexDigit (f c)) (hpercent : f '%' = '%')
    (hother : ∀ c, c ≠ '%' → f c ≠ '%') : Escaped (s.map f) := by
  induction h with
  | nil => exact .nil
  | plain hc _ ih => exact .plain (hother _ hc) ih
  | escape ha hb _ ih =>
    rw [List.map_cons, hpercent]
    exact .escape (hdigit _ ha) (hdigit _ hb) ih

/-- The parts of an escaped text between the occurrences of a character that is no digit. -/
theorem of_mem_cutAt (h : Escaped s) {sep : Char} (hdigit : ¬IsHexDigit sep) (hsep : sep ≠ '%') {part : List Char}
    (hpart : part ∈ Text.cutAt sep s) : Escaped part := by
  rw [← Text.intercalate_cutAt sep s] at h
  generalize Text.cutAt sep s = parts at h hpart
  induction parts with
  | nil => cases hpart
  | cons p parts ih =>
    cases parts with
    | nil =>
      rw [List.mem_singleton] at hpart
      rw [hpart]
      simpa using h
    | cons q parts =>
      rw [List.intercalate_cons_cons, List.append_assoc, List.singleton_append] at h
      obtain ⟨hp, hrest⟩ := h.split hdigit
      rcases List.mem_cons.1 hpart with rfl | hpart
      · exact hp
      · exact ih (hrest.of_cons hsep) hpart

end Escaped

/-- An escaped text is one in which each percent sign is the start of an escape. -/
theorem escaped_iff_forall {s : List Char} :
    Escaped s ↔ ∀ before behind, s = before ++ '%' :: behind → BeginsWithDigits behind := by
  constructor
  · rintro h before behind rfl
    cases (h.split not_isHexDigit_percent).2 with
    | plain hc => exact absurd rfl hc
    | escape ha hb => exact ⟨_, _, _, rfl, ha, hb⟩
  · intro h
    induction hn : s.length using Nat.strong_induction_on generalizing s with
    | _ n ih =>
      cases s with
      | nil => exact .nil
      | cons c s =>
        by_cases hc : c = '%'
        · subst hc
          obtain ⟨a, b, rest, rfl, ha, hb⟩ := h [] s rfl
          refine .escape ha hb (ih rest.length (by simp at hn; omega) (fun before behind hrest => ?_) rfl)
          exact h ('%' :: a :: b :: before) behind (by rw [hrest]; rfl)
        · refine .plain hc (ih s.length (by simp at hn; omega) (fun before behind hs => ?_) rfl)
          exact h (c :: before) behind (by rw [hs]; rfl)

namespace Percent

/-! ## Encoding -/

/-- A set of characters that a component cannot hold, of which percent signs and digits are none. -/
structure Spares (set : Char → Bool) : Prop where
  percent : set '%' = false
  digit : ∀ c, IsHexDigit c → set c = false

theorem spares_of_ascii {set : Char → Bool}
    (h : ∀ n, n < 0x80 → IsHexDigit (Char.ofNat n) ∨ Char.ofNat n = '%' → set (Char.ofNat n) = false) : Spares set where
  percent := forall_ascii (P := fun c => IsHexDigit c ∨ c = '%' → set c = false) h (by decide) (.inr rfl)
  digit c hc := forall_ascii (P := fun c => IsHexDigit c ∨ c = '%' → set c = false) h hc.toNat_lt (.inl hc)

theorem spares_fragmentSet : Spares fragmentSet := spares_of_ascii (by decide)

theorem spares_pathSet : Spares pathSet := spares_of_ascii (by decide)

theorem spares_userSet : Spares userSet := spares_of_ascii (by decide)

theorem isHexDigit_digit {n : Nat} (h : n < 16) : IsHexDigit (digit n) := by
  revert n
  decide

/-- Escapes of octets. -/
theorem escaped_flatMap_escape (bs : Bytes) : Escaped (bs.flatMap escape) := by
  induction bs with
  | nil => exact .nil
  | cons b bs ih =>
    have hb := b.toNat_lt
    rw [List.flatMap_cons]
    exact .escape (isHexDigit_digit (by omega)) (isHexDigit_digit (by omega)) ih

theorem encodeChar_of_spared {set : Char → Bool} {c : Char} (h : set c = false) (hc : c.toNat < 0x80) :
    encodeChar set c = [c] := by
  simp [encodeChar, h, hc]

/-- Encoding leaves escapes alone and makes no other percent signs. -/
theorem escaped_encode {set : Char → Bool} (hset : Spares set) {s : List Char} (h : Escaped s) : Escaped (encode set s) := by
  have hdigit {c : Char} (hc : IsHexDigit c) : encodeChar set c = [c] := encodeChar_of_spared (hset.digit c hc) hc.toNat_lt
  induction h with
  | nil => exact .nil
  | @plain c s hc _ ih =>
    have hchar : Escaped (encodeChar set c) := by
      unfold encodeChar
      split
      · exact escaped_flatMap_escape _
      · exact .plain hc .nil
    exact hchar.append ih
  | @escape a b s ha hb _ ih =>
    have hpercent : encodeChar set '%' = ['%'] := encodeChar_of_spared hset.percent (by decide)
    rw [encode, List.flatMap_cons, List.flatMap_cons, List.flatMap_cons, hpercent, hdigit ha, hdigit hb]
    exact .escape ha hb ih

/-- A component holds escapes, and what it can hold of the text. -/
theorem of_mem_encode {set : Char → Bool} {s : List Char} {c : Char} (h : c ∈ encode set s) :
    c = '%' ∨ IsHexDigit c ∨ c ∈ s ∧ set c = false ∧ c.toNat < 0x80 := by
  obtain ⟨d, hd, hc⟩ := List.mem_flatMap.1 h
  unfold encodeChar at hc
  split at hc
  · obtain ⟨b, -, hb⟩ := List.mem_flatMap.1 hc
    have hlt := b.toNat_lt
    simp only [escape, List.mem_cons, List.not_mem_nil, or_false] at hb
    rcases hb with rfl | rfl | rfl
    · exact .inl rfl
    · exact .inr (.inl (isHexDigit_digit (by omega)))
    · exact .inr (.inl (isHexDigit_digit (by omega)))
  · next hspared =>
    rw [List.mem_singleton] at hc
    rw [hc]
    simp only [Bool.or_eq_true, Bool.not_eq_true', decide_eq_false_iff_not, not_or, not_not, Bool.not_eq_true] at hspared
    exact .inr (.inr ⟨hd, hspared⟩)

/-- A component holds nothing that it cannot hold. -/
theorem not_mem_encode {set : Char → Bool} {c : Char} (hc : set c = true) (hpercent : c ≠ '%') (hdigit : ¬IsHexDigit c)
    (s : List Char) : c ∉ encode set s := by
  intro hmem
  rcases of_mem_encode hmem with h | h | ⟨-, h, -⟩
  · exact hpercent h
  · exact hdigit h
  · rw [hc] at h
    cases h

end Percent

end QueryAudit.Url
