import QueryAudit.Proofs.Url.Escapes
import QueryAudit.Proofs.Utf8
/-!
# Stray percent signs

The scan for stray percent signs jumps over the octets of an escape. `strayFrom?_eq_none_iff` and
`strayFrom?_eq_some_iff` say that it finds what looking at every place would find: the first percent sign that two
digits do not follow. Such a place is never inside a character, so that the text can be cut there (`strayEscape?_at`).
`strayEscape?_eq_none_iff` and `strayEscape?_eq_some_iff` say what is found without counting octets.
-/

namespace QueryAudit.Url

/-- A hexadecimal digit of ASCII in either case, as an octet. -/
def IsHexOctet (b : UInt8) : Prop := 0x30 ≤ b ∧ b ≤ 0x39 ∨ 0x41 ≤ b ∧ b ≤ 0x46 ∨ 0x61 ≤ b ∧ b ≤ 0x66

instance : DecidablePred IsHexOctet := fun b =>
  inferInstanceAs (Decidable (0x30 ≤ b ∧ b ≤ 0x39 ∨ 0x41 ≤ b ∧ b ≤ 0x46 ∨ 0x61 ≤ b ∧ b ≤ 0x66))

theorem not_isHexOctet_percent : ¬IsHexOctet 0x25 := by decide

/-- Two hexadecimal digits stand at a place. -/
def DigitsAt (bs : Bytes) (i : Nat) : Prop :=
  ∃ x y, bs[i]? = some x ∧ bs[i + 1]? = some y ∧ IsHexOctet x ∧ IsHexOctet y

/-- A percent sign stands at a place, and not two digits behind it. -/
def StrayAt (bs : Bytes) (i : Nat) : Prop := bs[i]? = some 0x25 ∧ ¬DigitsAt bs (i + 1)

/-- The first place of a stray percent sign. -/
structure IsFirstStray (bs : Bytes) (i : Nat) : Prop where
  stray : StrayAt bs i
  first : ∀ j < i, ¬StrayAt bs j

theorem IsFirstStray.unique {bs : Bytes} {i j : Nat} (hi : IsFirstStray bs i) (hj : IsFirstStray bs j) : i = j := by
  rcases Nat.lt_trichotomy i j with hlt | heq | hlt
  · exact absurd hi.stray (hj.first i hlt)
  · exact heq
  · exact absurd hj.stray (hi.first j hlt)

/-! ## Octets before and behind -/

section Append
variable (front rest : Bytes)

theorem digitsAt_append_right (i : Nat) : DigitsAt (front ++ rest) (front.length + i) ↔ DigitsAt rest i := by
  simp only [DigitsAt, Nat.add_assoc, List.getElem?_append_right (Nat.le_add_right _ _), Nat.add_sub_cancel_left]

/-- What stands before a place does not matter there. -/
theorem strayAt_append_right (i : Nat) : StrayAt (front ++ rest) (front.length + i) ↔ StrayAt rest i := by
  rw [StrayAt, Nat.add_assoc, digitsAt_append_right, List.getElem?_append_right (Nat.le_add_right _ _),
    Nat.add_sub_cancel_left, StrayAt]

/-- Nor does what stands behind a later percent sign. -/
theorem strayAt_append_left {i : Nat} (hi : i < front.length) :
    StrayAt (front ++ 0x25 :: rest) i ↔ StrayAt front i := by
  have hoctet {k : Nat} {x : UInt8} (hx : IsHexOctet x) (hk : k ≤ front.length) :
      (front ++ 0x25 :: rest)[k]? = some x ↔ front[k]? = some x := by
    rcases Nat.lt_or_eq_of_le hk with hlt | rfl
    · rw [List.getElem?_append_left hlt]
    · -- Behind the front stands the percent sign, which is no digit.
      rw [List.getElem?_append_right (Nat.le_refl _), Nat.sub_self, List.getElem?_eq_none (Nat.le_refl _)]
      refine iff_of_false (fun heq => ?_) nofun
      cases heq
      exact not_isHexOctet_percent hx
  have hdigits : DigitsAt (front ++ 0x25 :: rest) (i + 1) ↔ DigitsAt front (i + 1) := by
    constructor
    · rintro ⟨x, y, hx, hy, hxhex, hyhex⟩
      have hfront := (hoctet hxhex hi).1 hx
      have hlt : i + 1 < front.length := (List.getElem?_eq_some_iff.1 hfront).1
      exact ⟨x, y, hfront, (hoctet hyhex hlt).1 hy, hxhex, hyhex⟩
    · rintro ⟨x, y, hx, hy, hxhex, hyhex⟩
      have hlt : i + 1 < front.length := (List.getElem?_eq_some_iff.1 hx).1
      exact ⟨x, y, (hoctet hxhex hi).2 hx, (hoctet hyhex hlt).2 hy, hxhex, hyhex⟩
  rw [StrayAt, StrayAt, hdigits, List.getElem?_append_left hi]

end Append

/-! ## The scan -/

namespace Percent

theorem isDigitOctet_iff {b : UInt8} : isDigitOctet b = true ↔ IsHexOctet b := by
  have hoctet : ∀ n < 256, isDigitOctet (UInt8.ofNat n) = true ↔ IsHexOctet (UInt8.ofNat n) := by decide +kernel
  simpa using hoctet b.toNat b.toNat_lt

/-- What a scan finds that begins at a place: nothing, or the first stray percent sign from there on. -/
inductive Finds (bs : Bytes) (place : Nat) : Option Nat → Prop
  | none : (∀ i, ¬StrayAt bs i) → Finds bs place none
  | some {i} : IsFirstStray bs i → Finds bs place (some (place + i))

/-- One turn: octets are passed over among which nothing is stray. -/
theorem Finds.pass (front : Bytes) {rest : Bytes} {place : Nat} {found : Option Nat}
    (hfront : ∀ i < front.length, ¬StrayAt (front ++ rest) i) (h : Finds rest (place + front.length) found) :
    Finds (front ++ rest) place found := by
  have hbehind (i : Nat) (hi : ¬i < front.length) : StrayAt (front ++ rest) i ↔ StrayAt rest (i - front.length) := by
    rw [← strayAt_append_right front rest, Nat.add_sub_cancel' (Nat.le_of_not_lt hi)]
  cases h with
  | none hnone =>
    refine .none fun i hstray => ?_
    by_cases hi : i < front.length
    · exact hfront i hi hstray
    · exact hnone _ ((hbehind i hi).1 hstray)
  | @some i hfirst =>
    rw [Nat.add_assoc]
    refine .some ⟨(strayAt_append_right front rest i).2 hfirst.stray, fun j hj hstray => ?_⟩
    by_cases hlt : j < front.length
    · exact hfront j hlt hstray
    · exact hfirst.first _ (by omega) ((hbehind j hlt).1 hstray)

/-- Nothing is stray in an escape: the two octets that the scan jumps over are digits and no percent signs. -/
theorem not_strayAt_escape {x y : UInt8} (hx : IsHexOctet x) (hy : IsHexOctet y) (after : Bytes) :
    ∀ i < 3, ¬StrayAt ([0x25, x, y] ++ after) i := by
  intro i hi
  match i, hi with
  | 0, _ => exact fun hstray => hstray.2 ⟨x, y, rfl, rfl, hx, hy⟩
  | 1, _ =>
    rintro ⟨heq, -⟩
    cases heq
    exact not_isHexOctet_percent hx
  | 2, _ =>
    rintro ⟨heq, -⟩
    cases heq
    exact not_isHexOctet_percent hy

/-- Where the scan stops, the first octet that it has left is stray. -/
theorem isFirstStray_percent {rest : Bytes}
    (h : ∀ x y after, rest = x :: y :: after → ¬(IsHexOctet x ∧ IsHexOctet y)) : IsFirstStray (0x25 :: rest) 0 where
  stray := by
    refine ⟨rfl, ?_⟩
    rintro ⟨x, y, hx, hy, hhex⟩
    match rest, hx, hy with
    | x :: y :: after, rfl, rfl => exact h x y after rfl hhex
  first j hj := absurd hj (Nat.not_lt_zero j)

/-- The whole scan, by its turns. -/
theorem finds_strayFrom? (place : Nat) (bs : Bytes) : Finds bs place (strayFrom? place bs) := by
  fun_induction strayFrom? place bs with
  | case1 => exact .none fun i hstray => nomatch hstray.1
  | case2 place x y after hdigits ih =>
    rw [Bool.and_eq_true, isDigitOctet_iff, isDigitOctet_iff] at hdigits
    exact .pass [0x25, x, y] (not_strayAt_escape hdigits.1 hdigits.2 after) ih
  | case3 place x y after hdigits =>
    rw [Bool.and_eq_true, isDigitOctet_iff, isDigitOctet_iff] at hdigits
    refine .some (i := 0) (isFirstStray_percent ?_)
    rintro _ _ _ ⟨⟩
    exact hdigits
  | case4 place rest hshort =>
    exact .some (i := 0) (isFirstStray_percent fun x y after heq => (hshort x y after heq).elim)
  | case5 place b rest hb ih =>
    refine .pass [b] (fun i hi => ?_) ih
    rw [Nat.lt_one_iff.1 hi]
    rintro ⟨heq, -⟩
    exact hb (Option.some.inj heq)

variable {bs : Bytes}

theorem strayFrom?_eq_none_iff : strayFrom? 0 bs = none ↔ ∀ i, ¬StrayAt bs i := by
  have hfinds := finds_strayFrom? 0 bs
  generalize strayFrom? 0 bs = found at hfinds
  cases hfinds with
  | none hnone => exact iff_of_true rfl hnone
  | some hfirst => exact iff_of_false nofun fun hnone => hnone _ hfirst.stray

/-- The scan jumps over escapes, and misses nothing. -/
theorem strayFrom?_eq_some_iff {i : Nat} : strayFrom? 0 bs = some i ↔ IsFirstStray bs i := by
  have hfinds := finds_strayFrom? 0 bs
  generalize strayFrom? 0 bs = found at hfinds
  cases hfinds with
  | none hnone => exact iff_of_false nofun fun hfirst => hnone i hfirst.stray
  | some hfirst =>
    rw [Option.some.injEq, Nat.zero_add]
    exact ⟨fun heq => heq ▸ hfirst, hfirst.unique⟩

end Percent

/-! ## The text -/

theorem isHexOctet_iff {c : Char} {b : UInt8} (h : c.toNat = b.toNat) : IsHexOctet b ↔ IsHexDigit c := by
  rw [← Percent.isDigitOctet_iff, ← isSome_hexDigit?_iff, Percent.isDigitOctet, ← h, Char.ofNat_toNat]

theorem IsHexOctet.toNat_lt {b : UInt8} (h : IsHexOctet b) : b.toNat < 0x80 := by
  simp only [IsHexOctet, UInt8.le_iff_toNat_le, UInt8.reduceToNat] at h
  omega

/-- Two digits are two octets, whatever characters stand behind them. -/
theorem digitsAt_encode (s : List Char) : DigitsAt (Utf8.encode s) 0 ↔ BeginsWithDigits s := by
  constructor
  · rintro ⟨x, y, hx, hy, hxhex, hyhex⟩
    obtain ⟨tail, htail⟩ : ∃ tail, Utf8.encode s = x :: y :: tail := by
      match Utf8.encode s, hx, hy with
      | x' :: y' :: tail, rfl, rfl => exact ⟨tail, rfl⟩
    obtain ⟨a, t, rfl, ha, ht⟩ := Utf8.exists_cons_of_encode htail hxhex.toNat_lt
    obtain ⟨b, u, rfl, hb, -⟩ := Utf8.exists_cons_of_encode ht hyhex.toNat_lt
    exact ⟨a, b, u, rfl, (isHexOctet_iff ha).1 hxhex, (isHexOctet_iff hb).1 hyhex⟩
  · rintro ⟨a, b, rest, rfl, ha, hb⟩
    have hoctet {c : Char} (hc : IsHexDigit c) : IsHexOctet (UInt8.ofNat c.toNat) := by
      have hlt := hc.toNat_lt
      exact (isHexOctet_iff (Utf8.toNat_ofNat (by omega)).symm).2 hc
    rw [Utf8.encode_cons, Utf8.encode_cons, Utf8.encodeChar_ascii ha.toNat_lt, Utf8.encodeChar_ascii hb.toNat_lt]
    exact ⟨_, _, rfl, rfl, hoctet ha, hoctet hb⟩

variable {s : List Char}

theorem strayAt_encode (before behind : List Char) :
    StrayAt (Utf8.encode (before ++ '%' :: behind)) (Utf8.encode before).length ↔ ¬BeginsWithDigits behind := by
  have hpercent : StrayAt (Utf8.encode ('%' :: behind)) 0 ↔ ¬DigitsAt (Utf8.encode behind) 0 := by
    rw [← digitsAt_append_right [0x25] (Utf8.encode behind) 0]
    exact and_iff_right rfl
  rw [Utf8.encode_append, ← digitsAt_encode, ← hpercent]
  exact strayAt_append_right _ _ 0

/-- No stray percent sign is inside a character. -/
theorem exists_of_strayAt {i : Nat} (h : StrayAt (Utf8.encode s) i) : ∃ before behind, s = before ++ '%' :: behind ∧
    (Utf8.encode before).length = i ∧ ¬BeginsWithDigits behind := by
  obtain ⟨before, c, behind, rfl, rfl, hc⟩ := Utf8.exists_of_getElem?_encode h.1 (by decide)
  obtain rfl : c = '%' := Char.toNat_inj.1 hc
  exact ⟨before, behind, rfl, rfl, (strayAt_encode before behind).1 h⟩

/-- Escapes of characters and of octets are the same. -/
theorem escaped_iff_not_strayAt : Escaped s ↔ ∀ i, ¬StrayAt (Utf8.encode s) i := by
  rw [escaped_iff_forall]
  constructor
  · intro h i hstray
    obtain ⟨before, behind, heq, -, hbehind⟩ := exists_of_strayAt hstray
    exact hbehind (h before behind heq)
  · rintro h before behind rfl
    exact not_not.1 fun hbehind => h _ ((strayAt_encode before behind).2 hbehind)

theorem isFirstStray_encode_iff {before behind : List Char} :
    IsFirstStray (Utf8.encode (before ++ '%' :: behind)) (Utf8.encode before).length ↔
      Escaped before ∧ ¬BeginsWithDigits behind := by
  have hleft {j : Nat} (hj : j < (Utf8.encode before).length) :
      StrayAt (Utf8.encode (before ++ '%' :: behind)) j ↔ StrayAt (Utf8.encode before) j := by
    rw [Utf8.encode_append]
    exact strayAt_append_left _ _ hj
  rw [escaped_iff_not_strayAt]
  constructor
  · intro h
    refine ⟨fun j hstray => ?_, (strayAt_encode before behind).1 h.stray⟩
    have hj : j < (Utf8.encode before).length := (List.getElem?_eq_some_iff.1 hstray.1).1
    exact h.first j hj ((hleft hj).2 hstray)
  · rintro ⟨hbefore, hbehind⟩
    exact ⟨(strayAt_encode before behind).2 hbehind, fun j hj hstray => hbefore j ((hleft hj).1 hstray)⟩

namespace Percent

theorem strayEscape?_of_isFirstStray {before behind : List Char}
    (h : IsFirstStray (Utf8.encode (before ++ '%' :: behind)) (Utf8.encode before).length) :
    strayEscape? (before ++ '%' :: behind) = some ('%' :: behind) := by
  rw [strayEscape?, strayFrom?_eq_some_iff.2 h, Option.bind_some]
  exact Utf8.dropOctets?_eq_some_iff.2 ⟨before, rfl, rfl⟩

/-- The text is cut where the first stray percent sign stands. -/
theorem strayEscape?_at {i : Nat} (h : IsFirstStray (Utf8.encode s) i) : ∃ before behind, s = before ++ '%' :: behind ∧
    (Utf8.encode before).length = i ∧ strayEscape? s = some ('%' :: behind) := by
  obtain ⟨before, behind, rfl, rfl, -⟩ := exists_of_strayAt h.stray
  exact ⟨before, behind, rfl, rfl, strayEscape?_of_isFirstStray h⟩

/-- A text is escaped, or it has a first stray percent sign. -/
theorem strayEscape?_cases (s : List Char) : Escaped s ∧ strayEscape? s = none ∨
    ∃ before behind, s = before ++ '%' :: behind ∧ Escaped before ∧ ¬BeginsWithDigits behind ∧
      strayEscape? s = some ('%' :: behind) := by
  cases hfound : strayFrom? 0 (Utf8.encode s) with
  | none =>
    refine .inl ⟨escaped_iff_not_strayAt.2 (strayFrom?_eq_none_iff.1 hfound), ?_⟩
    rw [strayEscape?, hfound, Option.bind_none]
  | some i =>
    have hfirst := strayFrom?_eq_some_iff.1 hfound
    obtain ⟨before, behind, rfl, rfl, hescape⟩ := strayEscape?_at hfirst
    obtain ⟨hbefore, hbehind⟩ := isFirstStray_encode_iff.1 hfirst
    exact .inr ⟨before, behind, rfl, hbefore, hbehind, hescape⟩

theorem strayEscape?_eq_some_iff {t : List Char} : strayEscape? s = some t ↔
    ∃ before behind, s = before ++ '%' :: behind ∧ Escaped before ∧ ¬BeginsWithDigits behind ∧ t = '%' :: behind := by
  constructor
  · intro h
    rcases strayEscape?_cases s with ⟨-, hnone⟩ | ⟨before, behind, hs, hbefore, hbehind, hsome⟩
    · rw [hnone] at h
      cases h
    · rw [hsome, Option.some.injEq] at h
      exact ⟨before, behind, hs, hbefore, hbehind, h.symm⟩
  · rintro ⟨before, behind, rfl, hbefore, hbehind, rfl⟩
    exact strayEscape?_of_isFirstStray (isFirstStray_encode_iff.2 ⟨hbefore, hbehind⟩)

theorem strayEscape?_eq_none_iff : strayEscape? s = none ↔ Escaped s := by
  constructor
  · intro h
    rcases strayEscape?_cases s with ⟨hs, -⟩ | ⟨before, behind, -, -, -, hsome⟩
    · exact hs
    · rw [hsome] at h
      cases h
  · intro h
    rw [strayEscape?, strayFrom?_eq_none_iff.2 (escaped_iff_not_strayAt.1 h), Option.bind_none]

end Percent

end QueryAudit.Url
