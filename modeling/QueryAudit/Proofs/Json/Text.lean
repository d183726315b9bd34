import QueryAudit.Proofs.Json.Grammar
import QueryAudit.Proofs.Outcome
import QueryAudit.Proofs.Utf8
/-!
# Reading texts inside JSON

`readText_eq_ok_iff`: the reader of texts accepts exactly what denotes a text up to the closing
quotation mark, and answers the text. `isRaw_of_skipText`: what is only skipped is raw.
-/

namespace QueryAudit.Json

/-! ## Escapes by number -/

theorem readHex4_eq_ok_iff {bs rest : Bytes} {n : Nat} :
    readHex4 bs = .ok (n, rest) ↔ ∃ x y z w, bs = x :: y :: z :: w :: rest ∧ hex4? x y z w = some n := by
  unfold readHex4
  split
  · next x y z w tail =>
    constructor
    · intro h
      split at h
      · next hx hy hz hw =>
        simp only [Except.ok.injEq, Prod.mk.injEq] at h
        obtain ⟨rfl, rfl⟩ := h
        exact ⟨x, y, z, w, rfl, by simp [hex4?, hx, hy, hz, hw]⟩
      · cases h
    · rintro ⟨x', y', z', w', he, hn⟩
      simp only [List.cons.injEq] at he
      obtain ⟨rfl, rfl, rfl, rfl, rfl⟩ := he
      simp only [hex4?, Option.bind_eq_bind, Option.bind_eq_some_iff, Option.pure_def, Option.some.injEq] at hn
      obtain ⟨a, ha, b, hb, c, hc, d, hd, rfl⟩ := hn
      simp [ha, hb, hc, hd]
  · next hne =>
    constructor
    · intro h
      cases h
    · rintro ⟨x, y, z, w, rfl, -⟩
      exact absurd rfl (hne x y z w rest)

theorem readLowSurrogate_eq_ok_iff {bs rest : Bytes} {n : Nat} :
    readLowSurrogate bs = .ok (n, rest) ↔
      ∃ x y z w, bs = 0x5C :: 0x75 :: x :: y :: z :: w :: rest ∧ hex4? x y z w = some n ∧ IsLowSurrogate n := by
  constructor
  · intro h
    unfold readLowSurrogate at h
    split at h <;> try cases h
    obtain ⟨⟨m, after⟩, hr, hm⟩ := bind_eq_ok_iff.1 h
    obtain ⟨x, y, z, w, rfl, hn⟩ := readHex4_eq_ok_iff.1 hr
    simp only at hm
    split at hm
    · next hlow =>
      simp only [Except.ok.injEq, Prod.mk.injEq] at hm
      obtain ⟨rfl, rfl⟩ := hm
      exact ⟨x, y, z, w, rfl, hn, hlow⟩
    · cases hm
  · rintro ⟨x, y, z, w, rfl, hn, hlow⟩
    have hr : readHex4 (x :: y :: z :: w :: rest) = .ok (n, rest) :=
      readHex4_eq_ok_iff.2 ⟨x, y, z, w, rfl, hn⟩
    unfold IsLowSurrogate at hlow
    simp [readLowSurrogate, hr, bind, Except.bind, hlow]

/-- An escape by number is read as one number that is no surrogate, or as a pair of them. -/
theorem readNumericEscape_eq_ok_iff {bs rest : Bytes} {c : Char} :
    readNumericEscape bs = .ok (c, rest) ↔
      (∃ x y z w n, bs = x :: y :: z :: w :: rest ∧ hex4? x y z w = some n ∧ ¬IsHighSurrogate n ∧
        ¬IsLowSurrogate n ∧ c = Char.ofNat n) ∨
      (∃ x y z w n x' y' z' w' n', bs = x :: y :: z :: w :: 0x5C :: 0x75 :: x' :: y' :: z' :: w' :: rest ∧
        hex4? x y z w = some n ∧ IsHighSurrogate n ∧ hex4? x' y' z' w' = some n' ∧ IsLowSurrogate n' ∧
        c = pairChar n n') := by
  constructor
  · intro h
    obtain ⟨⟨n, after⟩, hr, hm⟩ := bind_eq_ok_iff.1 h
    obtain ⟨x, y, z, w, rfl, hn⟩ := readHex4_eq_ok_iff.1 hr
    simp only at hm
    split at hm
    · cases hm
    next hlow =>
    split at hm
    · next hhigh =>
      obtain ⟨⟨n', after'⟩, hl, hc⟩ := bind_eq_ok_iff.1 hm
      obtain ⟨x', y', z', w', rfl, hn', hlow'⟩ := readLowSurrogate_eq_ok_iff.1 hl
      simp only [Except.ok.injEq, Prod.mk.injEq] at hc
      obtain ⟨rfl, rfl⟩ := hc
      exact .inr ⟨x, y, z, w, n, x', y', z', w', n', rfl, hn, hhigh, hn', hlow', rfl⟩
    · next hhigh =>
      simp only [Except.ok.injEq, Prod.mk.injEq] at hm
      obtain ⟨rfl, rfl⟩ := hm
      exact .inl ⟨x, y, z, w, n, rfl, hn, hhigh, hlow, rfl⟩
  · rintro (⟨x, y, z, w, n, rfl, hn, hhigh, hlow, rfl⟩ |
      ⟨x, y, z, w, n, x', y', z', w', n', rfl, hn, hhigh, hn', hlow', hc⟩)
    · have hr : readHex4 (x :: y :: z :: w :: rest) = .ok (n, rest) :=
        readHex4_eq_ok_iff.2 ⟨x, y, z, w, rfl, hn⟩
      unfold IsHighSurrogate at hhigh
      unfold IsLowSurrogate at hlow
      simp [readNumericEscape, hr, bind, Except.bind, hhigh, hlow]
    · have hl : readLowSurrogate (0x5C :: 0x75 :: x' :: y' :: z' :: w' :: rest) = .ok (n', rest) :=
        readLowSurrogate_eq_ok_iff.2 ⟨x', y', z', w', rfl, hn', hlow'⟩
      have hr : readHex4 (x :: y :: z :: w :: 0x5C :: 0x75 :: x' :: y' :: z' :: w' :: rest) =
          .ok (n, 0x5C :: 0x75 :: x' :: y' :: z' :: w' :: rest) := readHex4_eq_ok_iff.2 ⟨x, y, z, w, rfl, hn⟩
      have hlow : ¬(0xDC00 ≤ n ∧ n ≤ 0xDFFF) := by
        unfold IsHighSurrogate at hhigh
        omega
      unfold IsHighSurrogate at hhigh
      simp only [readNumericEscape, hr, bind, Except.bind, if_neg hlow, if_pos hhigh, hl, hc]
      rfl

/-! ## Texts that are read -/

/-- An escape in front of what denotes a text denotes one character more. -/
theorem Decodes.escape {bs raw tail : Bytes} {c : Char} {cs : List Char}
    (h : readEscape bs = .ok (c, raw ++ tail)) (hd : Decodes raw cs) :
    ∃ raw', Decodes raw' (c :: cs) ∧ 0x5C :: bs = raw' ++ tail := by
  unfold readEscape at h
  split at h
  · cases h
  next b rest =>
  split at h
  · next hs =>
    simp only [Except.ok.injEq, Prod.mk.injEq] at h
    obtain ⟨rfl, rfl⟩ := h
    exact ⟨_, .short hs hd, rfl⟩
  · split at h
    · next hb =>
      subst hb
      rcases readNumericEscape_eq_ok_iff.1 h with ⟨x, y, z, w, n, rfl, hn, hhigh, hlow, hc⟩ |
        ⟨x, y, z, w, n, x', y', z', w', n', rfl, hn, hhigh, hn', hlow', hc⟩
      · rw [hc]
        exact ⟨_, .unit hn hhigh hlow hd, rfl⟩
      · rw [hc]
        exact ⟨_, .pair hn hhigh hn' hlow' hd, rfl⟩
    · cases h

/-- What is read as a text denotes it. -/
theorem decodes_of_readText {bs rest : Bytes} {cs : List Char} (h : readText bs = .ok (cs, rest)) :
    ∃ raw, Decodes raw cs ∧ bs = raw ++ 0x22 :: rest := by
  fun_induction readText bs generalizing cs with
  | case1 => cases h
  | case2 tail =>
    simp only [Except.ok.injEq, Prod.mk.injEq] at h
    obtain ⟨rfl, rfl⟩ := h
    exact ⟨[], .nil, rfl⟩
  | case3 => cases h
  | case4 tail c r hr _ ih =>
    obtain ⟨⟨cs', _⟩, hcs, ⟨⟩⟩ := map_eq_ok_iff.1 h
    obtain ⟨raw, hd, rfl⟩ := ih hcs
    obtain ⟨raw', hd', he⟩ := hd.escape hr
    exact ⟨raw', hd', he⟩
  | case5 => cases h
  | case6 b tail hq hs hc c r hr ih =>
    obtain ⟨⟨cs', _⟩, hcs, ⟨⟩⟩ := map_eq_ok_iff.1 h
    obtain ⟨raw, hd, rfl⟩ := ih hcs
    have he := Utf8.eq_encodeChar_of_next? hr
    -- The octet that was looked at is the first of the character, so that the character is no mark either.
    refine ⟨Utf8.encodeChar c ++ raw, ?_, by simp [he]⟩
    obtain ⟨b', tail', hbt, hlt⟩ := Utf8.encodeChar_eq_cons c
    rw [hbt] at he
    simp only [List.cons_append, List.cons.injEq] at he
    obtain ⟨rfl, -⟩ := he
    simp only [isControl, decide_eq_true_eq, UInt8.lt_iff_toNat_lt, UInt8.reduceToNat] at hc
    refine .plain (by omega) ?_ ?_ hd
    · rintro rfl
      have hb : b.toNat = 0x22 := by simpa using hlt.imp And.left And.right
      exact hq (UInt8.toNat_inj.1 hb)
    · rintro rfl
      have hb : b.toNat = 0x5C := by simpa using hlt.imp And.left And.right
      exact hs (UInt8.toNat_inj.1 hb)
  | case7 => cases h
  | case8 => cases h

theorem readText_escape {bs rest : Bytes} {c : Char} (h : readEscape bs = .ok (c, rest)) :
    readText (0x5C :: bs) = (readText rest).map fun (cs, rest) => (c :: cs, rest) := by
  rw [readText]
  rw [if_neg (by decide), if_pos rfl]
  split
  · next f hf => rw [h] at hf; cases hf
  · next c' r hr =>
    rw [h] at hr
    simp only [Except.ok.injEq, Prod.mk.injEq] at hr
    obtain ⟨rfl, rfl⟩ := hr
    rfl

theorem readText_plain {c : Char} (h1 : 0x20 ≤ c.toNat) (h2 : c ≠ '"') (h3 : c ≠ '\\') (bs : Bytes) :
    readText (Utf8.encodeChar c ++ bs) = (readText bs).map fun (cs, rest) => (c :: cs, rest) := by
  have hnext := Utf8.next?_encodeChar c bs
  obtain ⟨b, tail, hbt, hlt⟩ := Utf8.encodeChar_eq_cons c
  have hb : b.toNat = c.toNat ∨ 0x80 ≤ b.toNat := hlt.imp And.left And.left
  have hq : b ≠ 0x22 := by
    rintro rfl
    rcases hb with hb | hb
    · exact h2 (Char.toNat_inj.1 (by simpa using hb.symm))
    · simp at hb
  have hs : b ≠ 0x5C := by
    rintro rfl
    rcases hb with hb | hb
    · exact h3 (Char.toNat_inj.1 (by simpa using hb.symm))
    · simp at hb
  have hc : ¬isControl b = true := by
    simp only [isControl, decide_eq_true_eq, UInt8.lt_iff_toNat_lt, UInt8.reduceToNat]
    omega
  rw [hbt, List.cons_append] at hnext ⊢
  rw [readText, if_neg hq, if_neg hs, if_neg hc]
  split
  · next c' r hr =>
    rw [hnext] at hr
    simp only [Option.some.injEq, Prod.mk.injEq] at hr
    obtain ⟨rfl, rfl⟩ := hr
    rfl
  · next hr => rw [hnext] at hr; cases hr

/-- What denotes a text is read as that text, up to the closing quotation mark. -/
theorem Decodes.readText {raw : Bytes} {cs : List Char} (h : Decodes raw cs) (rest : Bytes) :
    readText (raw ++ 0x22 :: rest) = .ok (cs, rest) := by
  induction h with
  | nil =>
    rw [List.nil_append, Json.readText, if_pos rfl]
  | plain h1 h2 h3 _ ih =>
    rw [List.append_assoc, readText_plain h1 h2 h3, ih]
    rfl
  | @short b c bs cs hb _ ih =>
    have he : readEscape (b :: (bs ++ 0x22 :: rest)) = .ok (c, bs ++ 0x22 :: rest) := by
      simp [readEscape, hb]
    rw [List.cons_append, List.cons_append, readText_escape he, ih]
    rfl
  | @unit x y z w n bs cs hn hhigh hlow _ ih =>
    have he : readEscape (0x75 :: x :: y :: z :: w :: (bs ++ 0x22 :: rest)) =
        .ok (Char.ofNat n, bs ++ 0x22 :: rest) := by
      exact readNumericEscape_eq_ok_iff.2 (.inl ⟨x, y, z, w, n, rfl, hn, hhigh, hlow, rfl⟩)
    simp only [List.cons_append]
    rw [readText_escape he, ih]
    rfl
  | @pair x y z w n x' y' z' w' n' bs cs hn hhigh hn' hlow' _ ih =>
    have he : readEscape (0x75 :: x :: y :: z :: w :: 0x5C :: 0x75 :: x' :: y' :: z' :: w' :: (bs ++ 0x22 :: rest)) =
        .ok (pairChar n n', bs ++ 0x22 :: rest) := by
      exact readNumericEscape_eq_ok_iff.2
        (.inr ⟨x, y, z, w, n, x', y', z', w', n', rfl, hn, hhigh, hn', hlow', rfl⟩)
    simp only [List.cons_append]
    rw [readText_escape he, ih]
    rfl

theorem readText_eq_ok_iff {bs rest : Bytes} {cs : List Char} :
    readText bs = .ok (cs, rest) ↔ ∃ raw, Decodes raw cs ∧ bs = raw ++ 0x22 :: rest := by
  constructor
  · exact decodes_of_readText
  · rintro ⟨raw, hd, rfl⟩
    exact hd.readText rest

/-- A text between quotation marks is one text only, and ends in one place only. -/
theorem Quoted.unique {bs rest rest' : Bytes} {cs cs' : List Char} (h : Quoted cs bs rest)
    (h' : Quoted cs' bs rest') : cs = cs' ∧ rest = rest' := by
  obtain ⟨raw, hd, rfl⟩ := h
  obtain ⟨raw', hd', he⟩ := h'
  have he : raw ++ 0x22 :: rest = raw' ++ 0x22 :: rest' := (List.cons.inj he).2
  have hr := hd.readText rest
  rw [he, hd'.readText rest'] at hr
  simp only [Except.ok.injEq, Prod.mk.injEq] at hr
  exact ⟨hr.1.symm, hr.2.symm⟩

/-! ## Texts that are skipped -/

theorem isRaw_of_skipText {bs rest : Bytes} (h : skipText bs = .ok rest) :
    ∃ raw, IsRaw raw ∧ bs = raw ++ 0x22 :: rest := by
  fun_induction skipText bs with
  | case1 => cases h
  | case2 tail =>
    simp only [Except.ok.injEq] at h
    exact ⟨[], .nil, by simp [h]⟩
  | case3 => cases h
  | case4 tail r hr _ ih =>
    obtain ⟨raw, hraw, rfl⟩ := ih h
    unfold skipEscape at hr
    split at hr
    · cases hr
    next b after =>
    split at hr
    · next hb =>
      simp only [Except.ok.injEq] at hr
      subst hr
      obtain ⟨c, hc⟩ := Option.isSome_iff_exists.1 hb
      exact ⟨_, .short hc hraw, rfl⟩
    · split at hr
      · next hb =>
        subst hb
        obtain ⟨⟨n, _⟩, hx, rfl⟩ := map_eq_ok_iff.1 hr
        obtain ⟨x, y, z, w, rfl, hn⟩ := readHex4_eq_ok_iff.1 hx
        exact ⟨_, .unit hn hraw, rfl⟩
      · cases hr
  | case5 => cases h
  | case6 b tail hq hs hc ih =>
    obtain ⟨raw, hraw, rfl⟩ := ih h
    simp only [isControl, decide_eq_true_eq, UInt8.lt_iff_toNat_lt, UInt8.reduceToNat] at hc
    exact ⟨b :: raw, .plain (by omega) hq hs hraw, rfl⟩

/-- What may stand between quotation marks is skipped up to the closing one. -/
theorem IsRaw.skipText {raw : Bytes} (h : IsRaw raw) (rest : Bytes) :
    skipText (raw ++ 0x22 :: rest) = .ok rest := by
  have escape {bs : Bytes} (after : Bytes) (h : skipEscape bs = .ok after) :
      Json.skipText (0x5C :: bs) = Json.skipText after := by
    rw [Json.skipText, if_neg (by decide), if_pos rfl]
    split
    · next f hf => rw [h] at hf; cases hf
    · next r hr =>
      rw [h] at hr
      simp only [Except.ok.injEq] at hr
      rw [hr]
  induction h with
  | nil => rw [List.nil_append, Json.skipText, if_pos rfl]
  | @plain b bs h1 h2 h3 _ ih =>
    have hc : ¬isControl b = true := by
      simp only [isControl, decide_eq_true_eq, UInt8.lt_iff_toNat_lt, UInt8.reduceToNat]
      omega
    rw [List.cons_append, Json.skipText, if_neg h2, if_neg h3, if_neg hc, ih]
  | @short b c bs hb _ ih =>
    simp only [List.cons_append]
    rw [escape (bs ++ 0x22 :: rest) (by simp [skipEscape, hb]), ih]
  | @unit x y z w n bs hn _ ih =>
    have hr : readHex4 (x :: y :: z :: w :: (bs ++ 0x22 :: rest)) = .ok (n, bs ++ 0x22 :: rest) :=
      readHex4_eq_ok_iff.2 ⟨x, y, z, w, rfl, hn⟩
    simp only [List.cons_append]
    rw [escape (bs ++ 0x22 :: rest) (by simp [skipEscape, shortEscape?, hr, Except.map]), ih]

/-- Octets between quotation marks end in one place only. -/
theorem QuotedRaw.unique {bs rest rest' raw raw' : Bytes} (h : QuotedRaw raw bs rest)
    (h' : QuotedRaw raw' bs rest') : raw = raw' ∧ rest = rest' := by
  obtain ⟨hraw, rfl⟩ := h
  obtain ⟨hraw', he⟩ := h'
  have he : raw ++ 0x22 :: rest = raw' ++ 0x22 :: rest' := (List.cons.inj he).2
  have hr := hraw.skipText rest
  rw [he, hraw'.skipText rest'] at hr
  simp only [Except.ok.injEq] at hr
  subst hr
  exact ⟨List.append_cancel_right he, rfl⟩

end QueryAudit.Json
