import QueryAudit.Proofs.Json.Grammar
import QueryAudit.Proofs.Utf8
/-!
# Reading numbers inside JSON

`isInteger_of_readUnsigned`: only a number without fraction and exponent is read as an integer, and
its value is the one that its digits write, however close it is to the limits of 64 bits.
`of_skipUnsigned`: what is only skipped is a number too.
-/

namespace QueryAudit.Json

/-! ## Digits -/

theorem digit?_eq_some_iff {b : UInt8} {d : Nat} :
    digit? b = some d ↔ 0x30 ≤ b.toNat ∧ b.toNat ≤ 0x39 ∧ d = b.toNat - 0x30 := by
  have hb : b.toNat < 256 := b.toNat_lt
  have hv : (Char.ofNat b.toNat).toNat = b.toNat := Utf8.toNat_charOfNat (.inl (by omega))
  have h0 : ('0' : Char).toNat = 0x30 := rfl
  have h9 : ('9' : Char).toNat = 0x39 := rfl
  simp only [digit?, Numeral.decimalDigit?, Char.le_def, UInt32.le_iff_toNat_le, Char.toNat_val, h0, h9, hv,
    Option.ite_none_right_eq_some, Option.some.injEq]
  constructor
  · rintro ⟨⟨h1, h2⟩, rfl⟩
    exact ⟨h1, h2, rfl⟩
  · rintro ⟨h1, h2, rfl⟩
    exact ⟨⟨h1, h2⟩, rfl⟩

theorem isDigit_iff {b : UInt8} : isDigit b = true ↔ 0x30 ≤ b.toNat ∧ b.toNat ≤ 0x39 := by
  simp only [isDigit, Option.isSome_iff_exists, digit?_eq_some_iff]
  exact ⟨fun ⟨_, h1, h2, _⟩ => ⟨h1, h2⟩, fun ⟨h1, h2⟩ => ⟨_, h1, h2, rfl⟩⟩

theorem isDigits_cons {b : UInt8} {ds : Bytes} (hb : isDigit b = true) (hds : ∀ c ∈ ds, isDigit c = true) :
    IsDigits (b :: ds) := by
  refine ⟨by simp, fun c hc => ?_⟩
  rcases List.mem_cons.1 hc with rfl | hc
  · exact hb
  · exact hds c hc

theorem isWhole_zero : IsWhole [0x30] := ⟨isDigits_cons (by decide) (by simp), fun _ => rfl⟩

theorem isWhole_cons {b : UInt8} {ds : Bytes} (hb : isDigit b = true) (hds : ∀ c ∈ ds, isDigit c = true)
    (h0 : b ≠ 0x30) : IsWhole (b :: ds) :=
  ⟨isDigits_cons hb hds, fun h => absurd (Option.some.inj h) h0⟩

theorem digitsValue_append (ds es : Bytes) :
    digitsValue (ds ++ es) = es.foldl (fun n b => n * 10 + (b.toNat - 0x30)) (digitsValue ds) := by
  simp [digitsValue, Numeral.ofDigits, List.foldl_append, List.foldl_map]

/-- Digits that begin with another digit than zero write no zero. -/
theorem foldl_pos (ds : Bytes) {n : Nat} (h : 0 < n) :
    0 < ds.foldl (fun n b => n * 10 + (b.toNat - 0x30)) n := by
  induction ds generalizing n with
  | nil => exact h
  | cons b ds ih => exact ih (Nat.add_pos_left (by omega) _)

/-- Zero is written with one digit. -/
theorem IsWhole.eq_of_value_zero {ds : Bytes} (h : IsWhole ds) (h0 : digitsValue ds = 0) : ds = [0x30] := by
  obtain ⟨⟨hne, hall⟩, hlead⟩ := h
  obtain ⟨b, tail, rfl⟩ := List.exists_cons_of_ne_nil hne
  apply hlead
  obtain ⟨h1, h2⟩ := isDigit_iff.1 (hall b (by simp))
  by_cases hb : b.toNat = 0x30
  · rw [List.head?_cons, Option.some.injEq]
    exact UInt8.toNat_inj.1 hb
  · -- Another first digit than zero keeps the value above zero.
    have hpos := foldl_pos tail (n := digitsValue [b]) (by simp [digitsValue, Numeral.ofDigits]; omega)
    rw [← digitsValue_append, List.singleton_append] at hpos
    omega

/-- What is gathered is a run of digits in front, and their value. -/
theorem gather_eq (limit n taken : Nat) (bs : Bytes) :
    ∃ ds, (∀ b ∈ ds, isDigit b = true) ∧ bs = ds ++ (gather limit n taken bs).2.2 ∧
      (gather limit n taken bs).1 = ds.foldl (fun n b => n * 10 + (b.toNat - 0x30)) n := by
  fun_induction gather limit n taken bs with
  | case1 => exact ⟨[], by simp⟩
  | case2 n taken b rest d hd hle ih =>
    obtain ⟨ds, hall, he, hv⟩ := ih
    obtain ⟨h1, h2, rfl⟩ := digit?_eq_some_iff.1 hd
    exact ⟨b :: ds, (isDigits_cons (isDigit_iff.2 ⟨h1, h2⟩) hall).2, by rw [List.cons_append, ← he],
      by rw [hv, List.foldl_cons]⟩
  | case3 => exact ⟨[], by simp⟩
  | case4 => exact ⟨[], by simp⟩

theorem skipDigits_eq (bs : Bytes) : ∃ ds, (∀ b ∈ ds, isDigit b = true) ∧ bs = ds ++ skipDigits bs :=
  ⟨bs.takeWhile isDigit, List.all_eq_true.1 List.all_takeWhile, List.takeWhile_append_dropWhile.symm⟩

/-! ## Fractions and exponents make floating-point numbers -/

theorem floating_of_ofParts {neg : Bool} {m : Nat} {e : Int} {bs rest : Bytes} {x : Number}
    (h : ofParts neg m e bs = .ok (x, rest)) : ∃ y, x = .floating y := by
  unfold ofParts at h
  split at h
  · simp only [Except.ok.injEq, Prod.mk.injEq] at h
    exact ⟨_, h.1.symm⟩
  · cases h

theorem floating_of_readExponent {neg : Bool} {m : Nat} {e : Int} {bs rest : Bytes} {x : Number}
    (h : readExponent neg m e bs = .ok (x, rest)) : ∃ y, x = .floating y := by
  unfold readExponent at h
  simp only at h
  split at h
  · cases h
  split at h
  · split at h
    · split at h
      · split at h
        · cases h
        · simp only [Except.ok.injEq, Prod.mk.injEq] at h
          exact ⟨_, h.1.symm⟩
      · exact floating_of_ofParts h
    · exact floating_of_ofParts h
  · cases h

theorem floating_of_readScale {neg : Bool} {m : Nat} {e : Int} {bs rest : Bytes} {x : Number}
    (h : readScale neg m e bs = .ok (x, rest)) : ∃ y, x = .floating y := by
  unfold readScale at h
  split at h
  · split at h
    · exact floating_of_readExponent h
    · exact floating_of_ofParts h
  · exact floating_of_ofParts h

theorem floating_of_readFraction {neg : Bool} {m : Nat} {e : Int} {bs rest : Bytes} {x : Number}
    (h : readFraction neg m e bs = .ok (x, rest)) : ∃ y, x = .floating y := by
  unfold readFraction at h
  simp only at h
  split at h
  · split at h
    · exact floating_of_readScale h
    · split at h
      · cases h
      · exact floating_of_readScale h
  · split at h
    · cases h
    · exact floating_of_readScale h

theorem floating_of_readLong {neg : Bool} {m : Nat} {bs rest : Bytes} {x : Number}
    (h : readLong neg m bs = .ok (x, rest)) : ∃ y, x = .floating y := by
  unfold readLong at h
  simp only at h
  split at h
  · exact floating_of_readFraction h
  · exact floating_of_readScale h

/-! ## Integers -/

theorem eq_of_ofWhole {neg : Bool} {n : Nat} {i : Int} (h : ofWhole neg n = .integer i) :
    neg = false ∧ i = n ∨ neg = true ∧ n ≠ 0 ∧ i = -n := by
  unfold ofWhole at h
  cases neg with
  | false =>
    simp only [Bool.false_eq_true, not_false_eq_true, if_true, Number.integer.injEq] at h
    exact .inl ⟨rfl, h.symm⟩
  | true =>
    simp only [not_true_eq_false, if_false] at h
    split at h
    · cases h
    · next hn =>
      simp only [Number.integer.injEq] at h
      exact .inr ⟨rfl, fun h0 => hn (.inl h0), h.symm⟩

theorem of_readTail {neg : Bool} {n : Nat} {bs rest : Bytes} {i : Int}
    (h : readTail neg n bs = .ok (.integer i, rest)) : rest = bs ∧ ofWhole neg n = .integer i := by
  unfold readTail at h
  split at h
  · obtain ⟨y, hy⟩ := floating_of_readFraction h
    cases hy
  · split at h
    · obtain ⟨y, hy⟩ := floating_of_readExponent h
      cases hy
    · simp only [Except.ok.injEq, Prod.mk.injEq] at h
      exact ⟨h.2.symm, h.1⟩
  · simp only [Except.ok.injEq, Prod.mk.injEq] at h
    exact ⟨h.2.symm, h.1⟩

/-- A number that is read as an integer is a whole number whose digits write its magnitude. -/
theorem of_readUnsigned {neg : Bool} {bs rest : Bytes} {i : Int}
    (h : readUnsigned neg bs = .ok (.integer i, rest)) :
    ∃ ds, IsWhole ds ∧ bs = ds ++ rest ∧ ofWhole neg (digitsValue ds) = .integer i := by
  unfold readUnsigned at h
  split at h
  · cases h
  next b tail =>
  split at h
  · next hb =>
    subst hb
    split at h
    · split at h
      · cases h
      · obtain ⟨rfl, hi⟩ := of_readTail h
        exact ⟨[0x30], isWhole_zero, rfl, hi⟩
    · obtain ⟨rfl, hi⟩ := of_readTail h
      exact ⟨[0x30], isWhole_zero, rfl, hi⟩
  next hb =>
  split at h
  · next hd =>
    obtain ⟨ds, hall, he, hv⟩ := gather_eq greatestSignificand 0 0 (b :: tail)
    have hlt := gather_lt_length greatestSignificand 0 tail hd (by decide)
    generalize gather greatestSignificand 0 0 (b :: tail) = g at h he hv hlt
    obtain ⟨n, k, after⟩ := g
    simp only at h he hv hlt
    -- The digits are not none, and the first of them is the octet that was looked at.
    have hwhole : IsWhole ds := by
      cases ds with
      | nil => simp [he] at hlt
      | cons d ds =>
        simp only [List.cons_append, List.cons.injEq] at he
        obtain ⟨rfl, -⟩ := he
        exact isWhole_cons hd (fun c hc => hall c (by simp [hc])) hb
    have hn : n = digitsValue ds := by
      simp [hv, digitsValue, Numeral.ofDigits, List.foldl_map]
    subst hn
    split at h
    · split at h
      · obtain ⟨y, hy⟩ := floating_of_readLong h
        cases hy
      · obtain ⟨rfl, hi⟩ := of_readTail h
        exact ⟨ds, hwhole, he, hi⟩
    · obtain ⟨rfl, hi⟩ := of_readTail h
      exact ⟨ds, hwhole, he, hi⟩
  · cases h

theorem isInteger_of_readUnsigned {bs rest : Bytes} {i : Int}
    (h : readUnsigned false bs = .ok (.integer i, rest)) : ∃ ds, IsInteger ds i ∧ bs = ds ++ rest := by
  obtain ⟨ds, hds, he, hi⟩ := of_readUnsigned h
  rcases eq_of_ofWhole hi with ⟨-, rfl⟩ | ⟨hneg, -⟩
  · exact ⟨ds, .natural hds, he⟩
  · cases hneg

theorem isInteger_of_readNegative {bs rest : Bytes} {i : Int}
    (h : readUnsigned true bs = .ok (.integer i, rest)) : ∃ ds, IsInteger ds i ∧ 0x2D :: bs = ds ++ rest := by
  obtain ⟨ds, hds, he, hi⟩ := of_readUnsigned h
  rcases eq_of_ofWhole hi with ⟨hneg, -⟩ | ⟨-, hne, rfl⟩
  · cases hneg
  · exact ⟨0x2D :: ds, .negative hds hne, by rw [he]; rfl⟩

theorem IsInteger.isNumber {bs : Bytes} {n : Int} (h : IsInteger bs n) : IsNumber bs := by
  cases h with
  | natural h => exact ⟨[], bs, [], [], .inl rfl, h, .inl rfl, .inl rfl, by simp⟩
  | @negative ds h _ => exact ⟨[0x2D], ds, [], [], .inr rfl, h, .inl rfl, .inl rfl, by simp⟩

/-- Zero has one spelling. -/
theorem IsInteger.eq_zero {bs : Bytes} (h : IsInteger bs 0) : bs = [0x30] := by
  generalize hn : (0 : Int) = n at h
  cases h with
  | natural h => exact h.eq_of_value_zero (by omega)
  | negative _ hne => omega

theorem IsWhole.head_ne_minus {ds : Bytes} (h : IsWhole (0x2D :: ds)) : False := by
  have := isDigit_iff.1 (h.1.2 0x2D (by simp))
  simp at this

/-- An integer has one value. -/
theorem IsInteger.unique {bs : Bytes} {n m : Int} (hn : IsInteger bs n) (hm : IsInteger bs m) : n = m := by
  cases hn with
  | natural h =>
    cases hm with
    | natural _ => rfl
    | negative _ _ => exact h.head_ne_minus.elim
  | negative h _ =>
    cases hm with
    | natural h' => exact h'.head_ne_minus.elim
    | negative _ _ => rfl

/-! ## Numbers nobody reads -/

theorem isExponent_of_skipExponent {m : UInt8} (hm : isExponentMark m = true) {bs rest : Bytes}
    (h : skipExponent bs = .ok rest) : ∃ e, IsExponent e ∧ m :: bs = e ++ rest := by
  have hsign : ∃ sign, (sign = [] ∨ sign = [0x2B] ∨ sign = [0x2D]) ∧ bs = sign ++ (exponentSign bs).2 := by
    unfold exponentSign
    split
    · exact ⟨[0x2B], .inr (.inl rfl), rfl⟩
    · exact ⟨[0x2D], .inr (.inr rfl), rfl⟩
    · exact ⟨[], .inl rfl, rfl⟩
  obtain ⟨sign, hsign, he⟩ := hsign
  unfold skipExponent at h
  split at h
  · cases h
  next b tail hb =>
  split at h
  · next hd =>
    simp only [Except.ok.injEq] at h
    subst h
    obtain ⟨ds, hall, hds⟩ := skipDigits_eq tail
    refine ⟨m :: (sign ++ b :: ds), .inr ⟨m, sign, b :: ds, hm, hsign, isDigits_cons hd hall, rfl⟩, ?_⟩
    rw [he, hb, List.cons_append, List.append_assoc, List.cons_append, ← hds]
  · cases h

theorem of_skipTail {bs rest : Bytes} (h : skipTail bs = .ok rest) :
    ∃ f e, IsFraction f ∧ IsExponent e ∧ bs = f ++ e ++ rest := by
  unfold skipTail at h
  split at h
  · next tail =>
    unfold skipFraction at h
    split at h
    · cases h
    next b tail' =>
    split at h
    · next hd =>
      obtain ⟨ds, hall, hds⟩ := skipDigits_eq tail'
      have hf : IsFraction (0x2E :: b :: ds) := .inr ⟨b :: ds, isDigits_cons hd hall, rfl⟩
      split at h
      · next hnil =>
        simp only [Except.ok.injEq] at h
        subst h
        exact ⟨_, [], hf, .inl rfl, by rw [hds, hnil]; simp⟩
      · next c after hc =>
        split at h
        · next hm =>
          obtain ⟨e, he, heq⟩ := isExponent_of_skipExponent hm h
          refine ⟨_, e, hf, he, ?_⟩
          rw [hds, hc, heq]
          simp
        · simp only [Except.ok.injEq] at h
          subst h
          exact ⟨_, [], hf, .inl rfl, by rw [hds, hc]; simp⟩
    · cases h
  · split at h
    · next hm =>
      obtain ⟨e, he, heq⟩ := isExponent_of_skipExponent hm h
      exact ⟨[], e, .inl rfl, he, by rw [heq]; rfl⟩
    · simp only [Except.ok.injEq] at h
      exact ⟨[], [], .inl rfl, .inl rfl, by simp [h]⟩
  · simp only [Except.ok.injEq] at h
    exact ⟨[], [], .inl rfl, .inl rfl, by simp [h]⟩

/-- What is skipped behind a sign is a number without one. -/
theorem of_skipUnsigned {bs rest : Bytes} (h : skipUnsigned bs = .ok rest) :
    ∃ literal, bs = literal ++ rest ∧ IsNumber literal ∧ IsNumber (0x2D :: literal) := by
  have number {ds f e : Bytes} (hd : IsWhole ds) (hf : IsFraction f) (he : IsExponent e) :
      IsNumber (ds ++ f ++ e) ∧ IsNumber (0x2D :: (ds ++ f ++ e)) :=
    ⟨⟨[], ds, f, e, .inl rfl, hd, hf, he, by simp⟩, ⟨[0x2D], ds, f, e, .inr rfl, hd, hf, he, by simp⟩⟩
  unfold skipUnsigned at h
  split at h
  · cases h
  next b tail =>
  split at h
  · next hb =>
    subst hb
    split at h
    · split at h
      · cases h
      · obtain ⟨f, e, hf, he, heq⟩ := of_skipTail h
        exact ⟨[0x30] ++ f ++ e, by rw [heq]; simp, number isWhole_zero hf he⟩
    · simp only [Except.ok.injEq] at h
      subst h
      exact ⟨[0x30] ++ [] ++ [], by simp, number isWhole_zero (.inl rfl) (.inl rfl)⟩
  next hb =>
  split at h
  · next hd =>
    obtain ⟨f, e, hf, he, heq⟩ := of_skipTail h
    obtain ⟨ds, hall, hds⟩ := skipDigits_eq tail
    exact ⟨b :: ds ++ f ++ e, by rw [hds, heq]; simp, number (isWhole_cons hd hall hb) hf he⟩
  · cases h

end QueryAudit.Json
