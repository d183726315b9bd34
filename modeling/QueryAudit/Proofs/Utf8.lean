import QueryAudit.Text.Utf8
/-!
# Reading back what was encoded

`next?_eq_some_iff`: the front of a sequence of octets reads as a character exactly if it is the
encoding of that character, so a text has one encoding and an encoding one text.
`dropOctets?_eq_some_iff` and `exists_of_getElem?_encode`: a text can be cut behind each of its characters
and nowhere else, and an octet of ASCII always stands at such a place.
-/

namespace QueryAudit.Utf8

theorem toNat_ofNat {n : Nat} (h : n < 256) : (UInt8.ofNat n).toNat = n := by
  simp [Nat.mod_eq_of_lt h]

theorem continuation?_ofNat {n : Nat} (h : n < 64) : continuation? (UInt8.ofNat (n + 0x80)) = some n := by
  have hn : (UInt8.ofNat (n + 0x80)).toNat = n + 0x80 := toNat_ofNat (by omega)
  unfold continuation?
  rw [if_pos (by simp only [UInt8.le_iff_toNat_le, hn, UInt8.reduceToNat]; omega), hn]
  simp

theorem scalar?_toNat {lo hi n : Nat} {c : Char} (hn : n = c.toNat) (h1 : lo ≤ c.toNat) (h2 : c.toNat ≤ hi) :
    scalar? lo hi n = some c := by
  subst hn
  have hv : c.toNat.isValidChar := c.valid
  simp [scalar?, h1, h2, hv]

/-- Reading undoes encoding, whatever follows. -/
theorem next?_encodeChar (c : Char) (rest : Bytes) : next? (encodeChar c ++ rest) = some (c, rest) := by
  have hv : c.toNat < 0x110000 := by
    have : c.toNat.isValidChar := c.valid
    unfold Nat.isValidChar at this
    omega
  unfold encodeChar String.utf8EncodeChar
  simp only [show c.val.toNat = c.toNat from rfl]
  generalize hm : c.toNat = v at hv
  -- One branch for each length that an encoding can have.
  split
  · have hb : (UInt8.ofNat v).toNat = v := toNat_ofNat (by omega)
    simp only [List.cons_append, List.nil_append, next?]
    rw [if_pos (by simp only [UInt8.lt_iff_toNat_lt, hb, UInt8.reduceToNat]; omega), hb, ← hm]
    simp
  split
  · have hb : (UInt8.ofNat (v / 64 % 0x20 + 0xc0)).toNat = v / 64 % 0x20 + 0xc0 := toNat_ofNat (by omega)
    simp only [List.cons_append, List.nil_append, next?, UInt8.lt_iff_toNat_lt, hb, UInt8.reduceToNat]
    rw [if_neg (by omega), if_neg (by omega), if_pos (by omega), continuation?_ofNat (by omega)]
    simp only [Option.bind_eq_bind, Option.bind_some]
    rw [scalar?_toNat (c := c) (by omega) (by omega) (by omega)]
    rfl
  split
  · have hb : (UInt8.ofNat (v / 4096 % 0x10 + 0xe0)).toNat = v / 4096 % 0x10 + 0xe0 := toNat_ofNat (by omega)
    simp only [List.cons_append, List.nil_append, next?, UInt8.lt_iff_toNat_lt, hb, UInt8.reduceToNat]
    rw [if_neg (by omega), if_neg (by omega), if_neg (by omega), if_pos (by omega),
      continuation?_ofNat (by omega), continuation?_ofNat (by omega)]
    simp only [Option.bind_eq_bind, Option.bind_some]
    rw [scalar?_toNat (c := c) (by omega) (by omega) (by omega)]
    rfl
  · have hb : (UInt8.ofNat (v / 262144 % 0x08 + 0xf0)).toNat = v / 262144 % 0x08 + 0xf0 := toNat_ofNat (by omega)
    simp only [List.cons_append, List.nil_append, next?, UInt8.lt_iff_toNat_lt, hb, UInt8.reduceToNat]
    rw [if_neg (by omega), if_neg (by omega), if_neg (by omega), if_neg (by omega), if_pos (by omega),
      continuation?_ofNat (by omega), continuation?_ofNat (by omega), continuation?_ofNat (by omega)]
    simp only [Option.bind_eq_bind, Option.bind_some]
    rw [scalar?_toNat (c := c) (by omega) (by omega) (by omega)]
    rfl

theorem toNat_charOfNat {n : Nat} (h : n.isValidChar) : (Char.ofNat n).toNat = n := by
  rw [Char.ofNat, dif_pos h]
  rfl

theorem eq_ofNat {b : UInt8} {n : Nat} (h : b.toNat = n) : b = UInt8.ofNat n := by
  subst h
  simp

theorem of_continuation? {b : UInt8} {x : Nat} (h : continuation? b = some x) : b.toNat = x + 0x80 ∧ x < 64 := by
  simp only [continuation?, UInt8.le_iff_toNat_le, UInt8.reduceToNat, Option.ite_none_right_eq_some,
    Option.some.injEq] at h
  omega

theorem of_scalar? {lo hi n : Nat} {c : Char} (h : scalar? lo hi n = some c) : c.toNat = n ∧ lo ≤ n ∧ n ≤ hi := by
  simp only [scalar?, Option.ite_none_right_eq_some, Option.some.injEq] at h
  obtain ⟨⟨h1, h2, h3⟩, rfl⟩ := h
  exact ⟨toNat_charOfNat h3, h1, h2⟩

/-- What reads as a character is its encoding. -/
theorem eq_encodeChar_of_next? {bs rest : Bytes} {c : Char} (h : next? bs = some (c, rest)) :
    bs = encodeChar c ++ rest := by
  unfold next? at h
  split at h
  · cases h
  next b tail =>
  simp only [UInt8.lt_iff_toNat_lt, UInt8.reduceToNat] at h
  unfold encodeChar String.utf8EncodeChar
  simp only [show c.val.toNat = c.toNat from rfl]
  split at h
  · simp only [Option.some.injEq, Prod.mk.injEq] at h
    obtain ⟨rfl, rfl⟩ := h
    have hc : (Char.ofNat b.toNat).toNat = b.toNat := toNat_charOfNat (.inl (by omega))
    rw [hc, if_pos (by omega)]
    simp
  split at h
  · cases h
  split at h
  · split at h
    · next x rest' =>
      simp only [Option.bind_eq_bind, Option.bind_eq_some_iff, Option.pure_def, Option.some.injEq, Prod.mk.injEq] at h
      obtain ⟨x', hx, c', hc, rfl, rfl⟩ := h
      -- The limits of the scalar leave the encoder no other length than the one that was read.
      obtain ⟨hx, hx'⟩ := of_continuation? hx
      obtain ⟨hc, hlo, hhi⟩ := of_scalar? hc
      rw [if_neg (by omega), if_pos (by omega), ← eq_ofNat (b := b) (by omega), ← eq_ofNat (b := x) (by omega)]
      rfl
    · cases h
  split at h
  · split at h
    · next x y rest' =>
      simp only [Option.bind_eq_bind, Option.bind_eq_some_iff, Option.pure_def, Option.some.injEq, Prod.mk.injEq] at h
      obtain ⟨x', hx, y', hy, c', hc, rfl, rfl⟩ := h
      obtain ⟨hx, hx'⟩ := of_continuation? hx
      obtain ⟨hy, hy'⟩ := of_continuation? hy
      obtain ⟨hc, hlo, hhi⟩ := of_scalar? hc
      rw [if_neg (by omega), if_neg (by omega), if_pos (by omega), ← eq_ofNat (b := b) (by omega),
        ← eq_ofNat (b := x) (by omega), ← eq_ofNat (b := y) (by omega)]
      rfl
    · cases h
  split at h
  · split at h
    · next x y z rest' =>
      simp only [Option.bind_eq_bind, Option.bind_eq_some_iff, Option.pure_def, Option.some.injEq, Prod.mk.injEq] at h
      obtain ⟨x', hx, y', hy, z', hz, c', hc, rfl, rfl⟩ := h
      obtain ⟨hx, hx'⟩ := of_continuation? hx
      obtain ⟨hy, hy'⟩ := of_continuation? hy
      obtain ⟨hz, hz'⟩ := of_continuation? hz
      obtain ⟨hc, hlo, hhi⟩ := of_scalar? hc
      rw [if_neg (by omega), if_neg (by omega), if_neg (by omega), ← eq_ofNat (b := b) (by omega),
        ← eq_ofNat (b := x) (by omega), ← eq_ofNat (b := y) (by omega), ← eq_ofNat (b := z) (by omega)]
      rfl
    · cases h
  · cases h

theorem next?_eq_some_iff {bs rest : Bytes} {c : Char} : next? bs = some (c, rest) ↔ bs = encodeChar c ++ rest :=
  ⟨eq_encodeChar_of_next?, by rintro rfl; exact next?_encodeChar c rest⟩

/-- What is encoded begins with its first character, and is not empty. -/
theorem next?_encode_cons (c : Char) (s : List Char) :
    (encode (c :: s)).isEmpty = false ∧ next? (encode (c :: s)) = some (c, encode s) := by
  have hnext : next? (encode (c :: s)) = some (c, encode s) := next?_encodeChar c (encode s)
  cases h : encode (c :: s) with
  | nil =>
    rw [h] at hnext
    cases hnext
  | cons => exact ⟨rfl, h ▸ hnext⟩

/-- A text is read back. -/
theorem decode?_encode (s : List Char) : decode? (encode s) = some s := by
  induction s with
  | nil =>
    rw [encode, List.flatMap_nil, decode?]
    rfl
  | cons c s ih =>
    obtain ⟨hne, hnext⟩ := next?_encode_cons c s
    rw [decode?, hne, if_neg Bool.false_ne_true]
    split
    · next h =>
      rw [hnext] at h
      cases h
    · next h =>
      rw [hnext] at h
      cases h
      rw [ih, Option.map_some]

theorem encodeChar_ascii {c : Char} (h : c.toNat < 0x80) : encodeChar c = [UInt8.ofNat c.toNat] := by
  unfold encodeChar String.utf8EncodeChar
  simp only [show c.val.toNat = c.toNat from rfl]
  rw [if_pos (by omega)]

/-- Only characters of ASCII have octets of ASCII. -/
theorem le_of_mem_encodeChar {c : Char} (h : 0x80 ≤ c.toNat) {b : UInt8} (hb : b ∈ encodeChar c) :
    0x80 ≤ b.toNat := by
  unfold encodeChar String.utf8EncodeChar at hb
  simp only [show c.val.toNat = c.toNat from rfl] at hb
  rw [if_neg (by omega)] at hb
  split at hb
  · simp only [List.mem_cons, List.not_mem_nil, or_false] at hb
    rcases hb with rfl | rfl <;> rw [toNat_ofNat (by omega)] <;> omega
  split at hb
  · simp only [List.mem_cons, List.not_mem_nil, or_false] at hb
    rcases hb with rfl | rfl | rfl <;> rw [toNat_ofNat (by omega)] <;> omega
  · simp only [List.mem_cons, List.not_mem_nil, or_false] at hb
    rcases hb with rfl | rfl | rfl | rfl <;> rw [toNat_ofNat (by omega)] <;> omega

/-- The encoding of a character starts with the character itself or with an octet beyond ASCII. -/
theorem encodeChar_eq_cons (c : Char) :
    ∃ b tail, encodeChar c = b :: tail ∧ (b.toNat = c.toNat ∧ tail = [] ∨ 0x80 ≤ b.toNat ∧ 0x80 ≤ c.toNat) := by
  by_cases h : c.toNat < 0x80
  · exact ⟨_, [], encodeChar_ascii h, .inl ⟨toNat_ofNat (by omega), rfl⟩⟩
  · cases he : encodeChar c with
    | nil => exact absurd he String.utf8EncodeChar_ne_nil
    | cons b tail => exact ⟨b, tail, rfl, .inr ⟨le_of_mem_encodeChar (c := c) (by omega) (by simp [he]), by omega⟩⟩

theorem encode_append (s t : List Char) : encode (s ++ t) = encode s ++ encode t := by
  simp [encode]

@[simp] theorem encode_nil : encode [] = [] := rfl

@[simp] theorem encode_cons (c : Char) (s : List Char) : encode (c :: s) = encodeChar c ++ encode s := rfl

/-- The octets of a text without control characters are no control characters either. -/
theorem le_of_mem_encode {s : List Char} (h : ∀ c ∈ s, 0x20 ≤ c.toNat) {b : UInt8} (hb : b ∈ encode s) :
    0x20 ≤ b.toNat := by
  obtain ⟨c, hc, hbc⟩ := List.mem_flatMap.1 hb
  have := h c hc
  by_cases ha : c.toNat < 0x80
  · rw [encodeChar_ascii ha, List.mem_singleton] at hbc
    rw [hbc, toNat_ofNat (by omega)]
    exact this
  · have := le_of_mem_encodeChar (by omega) hbc
    omega

/-! ## Places in a text -/

theorem encodeChar_length_pos (c : Char) : 0 < (encodeChar c).length :=
  List.length_pos_iff.2 String.utf8EncodeChar_ne_nil

theorem dropOctets?_append (before t : List Char) : dropOctets? (encode before).length (before ++ t) = some t := by
  induction before with
  | nil =>
    rw [encode_nil, List.length_nil, dropOctets?]
    rfl
  | cons c before ih =>
    have hpos := encodeChar_length_pos c
    obtain ⟨n, hn⟩ : ∃ n, (encode (c :: before)).length = n + 1 := by
      refine Nat.exists_eq_add_one.2 ?_
      rw [encode_cons, List.length_append]
      omega
    have hrest : n + 1 - (encodeChar c).length = (encode before).length := by
      rw [← hn, encode_cons, List.length_append, Nat.add_sub_cancel_left]
    rw [hn, List.cons_append, dropOctets?, hrest, ih, if_pos]
    rw [← hn, encode_cons, List.length_append]
    omega

theorem exists_of_dropOctets? {n : Nat} {s t : List Char} (h : dropOctets? n s = some t) :
    ∃ before, s = before ++ t ∧ (encode before).length = n := by
  fun_induction dropOctets? n s with
  | case1 s =>
    cases h
    exact ⟨[], rfl, rfl⟩
  | case2 => cases h
  | case3 n c s hle ih =>
    obtain ⟨before, rfl, hlength⟩ := ih h
    refine ⟨c :: before, rfl, ?_⟩
    rw [encode_cons, List.length_append]
    omega
  | case4 => cases h

/-- A text can be cut behind each of its characters, and nowhere else. -/
theorem dropOctets?_eq_some_iff {n : Nat} {s t : List Char} :
    dropOctets? n s = some t ↔ ∃ before, s = before ++ t ∧ (encode before).length = n :=
  ⟨exists_of_dropOctets?, by rintro ⟨before, rfl, rfl⟩; exact dropOctets?_append before t⟩

/-- An octet of ASCII at the front of a text is its first character. -/
theorem exists_cons_of_encode {s : List Char} {b : UInt8} {rest : Bytes} (h : encode s = b :: rest)
    (hb : b.toNat < 0x80) : ∃ c t, s = c :: t ∧ c.toNat = b.toNat ∧ encode t = rest := by
  cases s with
  | nil => cases h
  | cons c t =>
    obtain ⟨b', tail, hc, hkind⟩ := encodeChar_eq_cons c
    rw [encode_cons, hc, List.cons_append] at h
    obtain ⟨rfl, hrest⟩ := List.cons.inj h
    rcases hkind with ⟨heq, rfl⟩ | ⟨hle, -⟩
    · exact ⟨c, t, rfl, heq.symm, hrest⟩
    · omega

/-- An octet of ASCII is a character wherever it stands in a text, and never inside one. -/
theorem exists_of_getElem?_encode {s : List Char} {i : Nat} {b : UInt8} (h : (encode s)[i]? = some b)
    (hb : b.toNat < 0x80) : ∃ before c behind, s = before ++ c :: behind ∧ (encode before).length = i ∧ c.toNat = b.toNat := by
  induction s generalizing i with
  | nil => cases h
  | cons c s ih =>
    by_cases hi : i < (encodeChar c).length
    · rw [encode_cons, List.getElem?_append_left hi] at h
      have hascii : c.toNat < 0x80 := by
        refine Nat.lt_of_not_le fun hle => ?_
        have := le_of_mem_encodeChar hle (List.mem_of_getElem? h)
        omega
      rw [encodeChar_ascii hascii] at h hi
      have hzero : i = 0 := by simpa using hi
      subst hzero
      cases h
      exact ⟨[], c, s, rfl, rfl, (toNat_ofNat (by omega)).symm⟩
    · rw [encode_cons, List.getElem?_append_right (by omega)] at h
      obtain ⟨before, d, behind, rfl, hlength, hd⟩ := ih h
      refine ⟨c :: before, d, behind, rfl, ?_, hd⟩
      rw [encode_cons, List.length_append]
      omega

end QueryAudit.Utf8

namespace QueryAudit

end QueryAudit
