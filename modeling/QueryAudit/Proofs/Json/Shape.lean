import QueryAudit.Json.Shape
import QueryAudit.Proofs.Json.Skip
/-!
# What a structure is read from

`Shape.of_decode`: a structure is read from an object in which no field has two members, or from an
array with no more elements than there are fields; every field holds what its member or element
denotes, or its initial value.
-/

namespace QueryAudit.Json

/-! ## Single values -/

theorem IsRaw.append {bs cs : Bytes} (hb : ∀ b ∈ bs, 0x20 ≤ b.toNat ∧ b ≠ 0x22 ∧ b ≠ 0x5C) (h : IsRaw cs) :
    IsRaw (bs ++ cs) := by
  induction bs with
  | nil => exact h
  | cons b bs ih =>
    obtain ⟨h1, h2, h3⟩ := hb b (by simp)
    exact .plain h1 h2 h3 (ih fun b hb' => hb b (by simp [hb']))

/-- A character that a text may hold as it is has octets that it may hold as they are. -/
theorem plain_of_mem_encodeChar {c : Char} (h1 : 0x20 ≤ c.toNat) (h2 : c ≠ '"') (h3 : c ≠ '\\') {b : UInt8}
    (hb : b ∈ Utf8.encodeChar c) : 0x20 ≤ b.toNat ∧ b ≠ 0x22 ∧ b ≠ 0x5C := by
  by_cases hc : c.toNat < 0x80
  · rw [Utf8.encodeChar_ascii hc, List.mem_singleton] at hb
    subst hb
    have hn : (UInt8.ofNat c.toNat).toNat = c.toNat := Utf8.toNat_ofNat (by omega)
    refine ⟨by omega, fun h => h2 (Char.toNat_inj.1 ?_), fun h => h3 (Char.toNat_inj.1 ?_)⟩
    · rw [← hn, h]
      rfl
    · rw [← hn, h]
      rfl
  · have := Utf8.le_of_mem_encodeChar (by omega) hb
    refine ⟨by omega, ?_, ?_⟩
    · rintro rfl
      simp at this
    · rintro rfl
      simp at this

/-- What denotes a text may stand between quotation marks. -/
theorem Decodes.isRaw {raw : Bytes} {cs : List Char} (h : Decodes raw cs) : IsRaw raw := by
  induction h with
  | nil => exact .nil
  | plain h1 h2 h3 _ ih => exact ih.append fun b hb => plain_of_mem_encodeChar h1 h2 h3 hb
  | short hb _ ih => exact .short hb ih
  | unit hn _ _ _ ih => exact .unit hn ih
  | pair hn _ hn' _ _ ih => exact .unit hn (.unit hn' ih)

theorem of_readString {bs rest : Bytes} {s : String} (h : readString bs = .ok (s, rest)) :
    ∃ raw, Decodes raw s.toList ∧ Blanks bs (0x22 :: raw ++ 0x22 :: rest) := by
  unfold readString at h
  split at h
  · cases h
  · next r hb =>
    obtain ⟨⟨cs, _⟩, hr, ⟨⟩⟩ := map_eq_ok_iff.1 h
    obtain ⟨raw, hd, rfl⟩ := decodes_of_readText hr
    exact ⟨raw, by rwa [String.toList_ofList], .of_dropBlanks hb⟩
  · cases h

theorem of_toInt64 {v : Number × Bytes} {n : Int64} {rest : Bytes} (h : toInt64 v = .ok (n, rest)) :
    v = (.integer n.toInt, rest) := by
  unfold toInt64 at h
  split at h
  · next m r =>
    split at h
    · next i hi =>
      simp only [Except.ok.injEq, Prod.mk.injEq] at h
      obtain ⟨rfl, rfl⟩ := h
      simp only [Numeral.int64?, Option.ite_none_right_eq_some, Option.some.injEq] at hi
      obtain ⟨⟨h1, h2⟩, rfl⟩ := hi
      rw [Int64.toInt_minValue] at h1
      rw [Int64.toInt_maxValue] at h2
      rw [Int64.toInt_ofInt_of_le h1 (by omega)]
    · cases h
  · cases h

/-- An integer is read from a number without fraction and exponent that fits 64 bits, and from
nothing else. -/
theorem of_readInt64 {bs rest : Bytes} {n : Int64} (h : readInt64 bs = .ok (n, rest)) :
    ∃ literal, IsInteger literal n.toInt ∧ Blanks bs (literal ++ rest) := by
  unfold readInt64 at h
  split at h
  · cases h
  next b r hb =>
  split at h
  · next hminus =>
    subst hminus
    obtain ⟨v, hr, h⟩ := bind_eq_ok_iff.1 h
    obtain rfl := of_toInt64 h
    obtain ⟨literal, hl, he⟩ := isInteger_of_readNegative hr
    exact ⟨literal, hl, .of_dropBlanks (by rw [hb, he])⟩
  split at h
  · obtain ⟨v, hr, h⟩ := bind_eq_ok_iff.1 h
    obtain rfl := of_toInt64 h
    obtain ⟨literal, hl, he⟩ := isInteger_of_readUnsigned hr
    exact ⟨literal, hl, .of_dropBlanks (by rw [hb, he])⟩
  · cases h

variable {σ : Type}

/-- A value is of the kind that a slot takes, and this is what it makes of the state. -/
inductive Slot.Takes : Slot σ → Tree Bytes → σ → σ → Prop
  | text {put raw s state} : Decodes raw s.toList → Takes (.text put) (.text raw) state (put s state)
  | integer {put literal n state} : IsInteger literal n.toInt →
      Takes (.integer put) (.number literal) state (put n state)

theorem Slot.of_read {slot : Slot σ} {state state' : σ} {bs rest : Bytes}
    (h : slot.read state bs = .ok (state', rest)) :
    ∃ v t, Blanks bs v ∧ Spells .loose t v rest ∧ slot.Takes t state state' := by
  unfold Slot.read at h
  split at h
  · obtain ⟨⟨s, _⟩, hr, ⟨⟩⟩ := map_eq_ok_iff.1 h
    obtain ⟨raw, hd, hb⟩ := of_readString hr
    exact ⟨_, .text raw, hb, .text ⟨hd.isRaw, rfl⟩, .text hd⟩
  · obtain ⟨⟨n, _⟩, hr, ⟨⟩⟩ := map_eq_ok_iff.1 h
    obtain ⟨literal, hl, hb⟩ := of_readInt64 hr
    exact ⟨_, .number literal, hb, .number hl.isNumber, .integer hl⟩

/-! ## Arrays -/

theorem of_nextElement {first : Bool} {bs start : Bytes} (h : nextElement first bs = .ok (some start)) :
    ∃ c, Comma Blanks first bs c ∧ Blanks c start := by
  unfold nextElement at h
  split at h
  · cases h
  next b rest hb =>
  split at h
  · cases h
  split at h
  · next hf =>
    simp only [Except.ok.injEq, Option.some.injEq] at h
    exact ⟨bs, by simp [Comma, hf], .of_dropBlanks (hb.trans h)⟩
  next hf =>
  split at h
  · next hcomma =>
    subst hcomma
    split at h
    · cases h
    next hc =>
    split at h
    · cases h
    · simp only [Except.ok.injEq, Option.some.injEq] at h
      exact ⟨rest, by simpa [Comma, hf] using Blanks.of_dropBlanks hb, .of_dropBlanks (hc.trans h)⟩
  · cases h

theorem of_endList {bs rest : Bytes} (h : endList bs = .ok rest) : Blanks bs (0x5D :: rest) := by
  unfold endList at h
  split at h
  · cases h
  next b after hb =>
  split at h
  · next hclose =>
    subst hclose
    simp only [Except.ok.injEq] at h
    exact .of_dropBlanks (h ▸ hb)
  split at h
  · split at h <;> cases h
  · cases h

/-- The elements of an array in the slots of the fields, in order; fields may be left over. -/
inductive Fits : List (Field σ) → σ → List (Tree Bytes) → σ → Prop
  | nil {fields state} : Fits fields state [] state
  | next {field : Field σ} {fields t ts state state' state''} : field.slot.Takes t state state' →
      Fits fields state' ts state'' → Fits (field :: fields) state (t :: ts) state''

theorem of_readElements {fields : List (Field σ)} {first : Bool} {state state' : σ} {bs rest : Bytes}
    (h : readElements fields first state bs = .ok (state', rest)) :
    ∃ ts, Elements Blanks (Spells .loose) first ts bs rest ∧ Fits fields state ts state' := by
  have close {fields : List (Field σ)} {first : Bool} {state : σ} {bs : Bytes}
      (h : (endList bs).map (state, ·) = .ok (state', rest)) :
      ∃ ts, Elements Blanks (Spells .loose) first ts bs rest ∧ Fits fields state ts state' := by
    obtain ⟨after, hr, ⟨⟩⟩ := map_eq_ok_iff.1 h
    exact ⟨[], .close (of_endList hr), .nil⟩
  induction fields generalizing first state bs with
  | nil => exact close h
  | cons field fields ih =>
    rw [readElements] at h
    split at h
    · cases h
    · exact close h
    · next start hs =>
      split at h
      · cases h
      · next state₁ after hread =>
        obtain ⟨c, hc, hcs⟩ := of_nextElement hs
        obtain ⟨v, t, hv, ht, htakes⟩ := Slot.of_read hread
        obtain ⟨ts, hts, hfits⟩ := ih h
        exact ⟨t :: ts, .next hc (hcs.trans hv) ht hts, .next htakes hfits⟩

/-! ## Objects -/

theorem of_nextKey_none {first : Bool} {bs rest : Bytes} (h : nextKey first bs = .ok (none, rest)) :
    Blanks bs (0x7D :: rest) := by
  have notNone {r : Bytes}
      (h : (readText r).map (fun (p : List Char × Bytes) => (some p.1, p.2)) = .ok (none, rest)) : False := by
    obtain ⟨_, _, ⟨⟩⟩ := map_eq_ok_iff.1 h
  unfold nextKey at h
  simp only at h
  split at h
  · cases h
  next b after hb =>
  split at h
  · next hclose =>
    subst hclose
    simp only [Except.ok.injEq, Prod.mk.injEq, true_and] at h
    exact .of_dropBlanks (h ▸ hb)
  split at h
  · split at h
    · exact (notNone h).elim
    · cases h
  split at h
  · split at h
    · cases h
    split at h
    · cases h
    · split at h
      · exact (notNone h).elim
      · cases h
  · cases h

theorem of_nextKey_some {first : Bool} {bs rest : Bytes} {key : List Char}
    (h : nextKey first bs = .ok (some key, rest)) :
    ∃ c l, Comma Blanks first bs c ∧ Blanks c l ∧ Quoted key l rest := by
  have quoted {r : Bytes}
      (h : (readText r).map (fun (p : List Char × Bytes) => (some p.1, p.2)) = .ok (some key, rest)) :
      Quoted key (0x22 :: r) rest := by
    obtain ⟨⟨cs, _⟩, hr, ⟨⟩⟩ := map_eq_ok_iff.1 h
    obtain ⟨raw, hd, rfl⟩ := decodes_of_readText hr
    exact ⟨raw, hd, rfl⟩
  unfold nextKey at h
  simp only at h
  split at h
  · cases h
  next b after hb =>
  split at h
  · simp at h
  split at h
  · next hf =>
    split at h
    · next r heq =>
      exact ⟨bs, _, by simp [Comma, hf], .of_dropBlanks (hb.trans heq), quoted h⟩
    · cases h
  next hf =>
  split at h
  · next hcomma =>
    subst hcomma
    split at h
    · cases h
    next hc =>
    split at h
    · cases h
    split at h
    · next r heq =>
      exact ⟨after, _, by simpa [Comma, hf] using Blanks.of_dropBlanks hb, .of_dropBlanks (hc.trans heq), quoted h⟩
    · cases h
  · cases h

namespace Shape

variable {shape : Shape σ}

/-- What the members of an object make of a state in which the fields in `seen` have had theirs: a
member of another field changes it, a member of none does not, and a second one of a field there is not. -/
inductive Fills (shape : Shape σ) : List String → σ → List (List Char × Tree Bytes) → σ → Prop
  | nil {seen state} : Fills shape seen state [] state
  | known {field : Field σ} {seen key t ms state state' state''} : shape.field? key = some field →
      field.name ∉ seen → field.slot.Takes t state state' → Fills shape (field.name :: seen) state' ms state'' →
      Fills shape seen state ((key, t) :: ms) state''
  | unknown {seen key t ms state state'} : shape.field? key = none → Fills shape seen state ms state' →
      Fills shape seen state ((key, t) :: ms) state'

theorem of_readMembers {first : Bool} {seen : List String} {state state' : σ} {bs rest : Bytes}
    (h : shape.readMembers first seen state bs = .ok (state', rest)) :
    ∃ ms, Members Blanks Quoted (Spells .loose) first ms bs rest ∧ shape.Fills seen state ms state' := by
  fun_induction Shape.readMembers shape first seen state bs with
  | case1 => cases h
  | case2 first seen state bs after hk =>
    simp only [Except.ok.injEq, Prod.mk.injEq] at h
    obtain ⟨rfl, rfl⟩ := h
    exact ⟨[], .close (of_nextKey_none hk), .nil⟩
  | case3 => cases h
  | case4 => cases h
  | case5 => cases h
  | case6 first seen state bs key m hk field hf hseen n hn state₁ e hread ih =>
    -- A field that has had no member yet: its slot takes the value.
    obtain ⟨c, l, hc, hl, hkey⟩ := of_nextKey_some hk
    obtain ⟨v, t, hv, ht, htakes⟩ := Slot.of_read hread
    obtain ⟨ms, hms, hfills⟩ := ih h
    refine ⟨(key, t) :: ms, .next hc hl hkey (of_skipColon hn) hv ht hms, .known hf ?_ htakes hfills⟩
    simpa using hseen
  | case7 => cases h
  | case8 => cases h
  | case9 first seen state bs key m hk hf n hn e hskip ih =>
    -- A key that no field answers to: the value is passed over.
    obtain ⟨c, l, hc, hl, hkey⟩ := of_nextKey_some hk
    obtain ⟨v, t, hv, ht⟩ := spells_of_skipValue hskip
    obtain ⟨ms, hms, hfills⟩ := ih h
    exact ⟨(key, t) :: ms, .next hc hl hkey (of_skipColon hn) hv ht hms, .unknown hf hfills⟩

/-- The members of an object are read one after the other. -/
theorem readMembers_eq (first : Bool) (seen : List String) (state : σ) (bs : Bytes) :
    shape.readMembers first seen state bs = (nextKey first bs).bind fun (next, m) =>
      match next with
      | none => .ok (state, m)
      | some key =>
        match shape.field? key with
        | some field =>
          if seen.contains field.name then .error (duplicate field m)
          else (skipColon m).bind fun n => (field.slot.read state n).bind fun (state, e) =>
            shape.readMembers false (field.name :: seen) state e
        | none => (skipColon m).bind fun n => (skipValue n).bind (shape.readMembers false seen state) := by
  rw [readMembers]
  cases hk : nextKey first bs with
  | error f => rfl
  | ok v =>
  obtain ⟨_ | key, m⟩ := v
  · rfl
  simp only [Except.bind]
  cases shape.field? key with
  | none =>
    cases skipColon m with
    | error f => rfl
    | ok n =>
      simp only
      cases skipValue n <;> rfl
  | some field =>
    by_cases hseen : seen.contains field.name = true
    · simp only [if_pos hseen]
    · simp only [if_neg hseen]
      cases skipColon m with
      | error f => rfl
      | ok n =>
        simp only
        cases field.slot.read state n <;> rfl

/-- A member of a field that has had none is read into it. -/
theorem readMembers_known {first : Bool} {seen : List String} {state state' : σ} {bs m n e : Bytes} {key : List Char}
    {field : Field σ} (hk : nextKey first bs = .ok (some key, m)) (hf : shape.field? key = some field)
    (hseen : field.name ∉ seen) (hn : skipColon m = .ok n) (hv : field.slot.read state n = .ok (state', e)) :
    shape.readMembers first seen state bs = shape.readMembers false (field.name :: seen) state' e := by
  simp [readMembers_eq first, Except.bind, hk, hf, hseen, hn, hv]

/-- A member that no field answers to is passed over. -/
theorem readMembers_unknown {first : Bool} {seen : List String} {state : σ} {bs m n e : Bytes} {key : List Char}
    (hk : nextKey first bs = .ok (some key, m)) (hf : shape.field? key = none) (hn : skipColon m = .ok n)
    (he : skipValue n = .ok e) : shape.readMembers first seen state bs = shape.readMembers false seen state e := by
  simp [readMembers_eq first, Except.bind, hk, hf, hn, he]

/-- What a structure is read from. -/
theorem of_decode {body : Bytes} {state : σ} (h : shape.decode body = .ok state) :
    (∃ ms, IsObject ms body ∧ shape.Fills [] shape.initial ms state) ∨
      (∃ ts, IsArray ts body ∧ Fits shape.fields shape.initial ts state) := by
  unfold decode at h
  split at h
  · cases h
  next final hall =>
  simp only [Except.ok.injEq] at h
  subst h
  unfold readAll at hall
  split at hall
  · cases hall
  next st rest hread =>
  split at hall
  · next hend =>
    simp only [Except.ok.injEq] at hall
    subst hall
    unfold read at hread
    split at hread
    · cases hread
    · next hb =>
      obtain ⟨ts, hts, hfits⟩ := of_readElements hread
      exact .inr ⟨ts, ⟨_, rest, .of_dropBlanks hb, hts, .of_dropBlanks hend⟩, hfits⟩
    · next hb =>
      obtain ⟨ms, hms, hfills⟩ := of_readMembers hread
      exact .inl ⟨ms, ⟨_, rest, .of_dropBlanks hb, hms, .of_dropBlanks hend⟩, hfills⟩
    · cases hread
  · cases hall

end Shape

end QueryAudit.Json
