import QueryAudit.Proofs.Json.Unambiguous
/-!
# Every value is skipped

`skipValue_of_spells`: whatever spells a JSON value is skipped up to its end, at any depth and with any
blanks, as long as what follows does not go on with a number. It is the converse of
`spells_of_skipValue`. The induction is on the tree; the brackets that are open outside of it stay on
the stack untouched.
-/

namespace QueryAudit.Json

/-! ## Numbers -/

theorem ne_of_isDigit {b c : UInt8} (hb : isDigit b = true) (hc : isDigit c = false) : b ≠ c := by
  rintro rfl
  rw [hb] at hc
  cases hc

/-- What follows is no more of a run of digits. -/
def PastDigits (rest : Bytes) : Prop := ∀ b ∈ rest.head?, isDigit b = false

theorem Apart.pastDigits {rest : Bytes} (h : Apart rest) : PastDigits rest := by
  intro b hb
  have := h b hb
  simp only [isNumberOctet, Bool.or_eq_false_iff] at this
  exact this.1.1.1.1

/-- Behind a number stands neither a point nor the mark of an exponent. -/
theorem Apart.of_cons {b : UInt8} {rest : Bytes} (h : Apart (b :: rest)) : b ≠ 0x2E ∧ isExponentMark b = false := by
  have := h b rfl
  simp only [isNumberOctet, Bool.or_eq_false_iff, beq_eq_false_iff_ne] at this
  exact ⟨this.2, this.1.1.1.2⟩

theorem isDigit_of_isExponentMark {b : UInt8} (h : isExponentMark b = true) : isDigit b = false := by
  simp only [isExponentMark, Bool.or_eq_true, beq_iff_eq] at h
  rcases h with rfl | rfl <;> decide

theorem skipDigits_append {ds rest : Bytes} (hds : ∀ b ∈ ds, isDigit b = true) (hr : PastDigits rest) :
    skipDigits (ds ++ rest) = rest := by
  rw [skipDigits, List.dropWhile_append_of_pos hds]
  cases rest with
  | nil => rfl
  | cons b rest => rw [List.dropWhile_cons_of_neg (by simp [hr b rfl])]

theorem IsExponent.pastDigits {e rest : Bytes} (he : IsExponent e) (hr : Apart rest) : PastDigits (e ++ rest) := by
  rcases he with rfl | ⟨mark, sign, ds, hmark, -, -, rfl⟩
  · exact hr.pastDigits
  · intro b hb
    obtain rfl : mark = b := by simpa using hb
    exact isDigit_of_isExponentMark hmark

theorem IsFraction.pastDigits {f e rest : Bytes} (hf : IsFraction f) (he : IsExponent e) (hr : Apart rest) :
    PastDigits (f ++ (e ++ rest)) := by
  rcases hf with rfl | ⟨ds, -, rfl⟩
  · exact he.pastDigits hr
  · intro b hb
    obtain rfl : 0x2E = b := by simpa using hb
    decide

/-- A sign in front of digits is told from them. -/
theorem exponentSign_append {sign ds : Bytes} (hsign : sign = [] ∨ sign = [0x2B] ∨ sign = [0x2D])
    (hds : IsDigits ds) (rest : Bytes) : (exponentSign (sign ++ ds ++ rest)).2 = ds ++ rest := by
  obtain ⟨d, ds, rfl⟩ := List.exists_cons_of_ne_nil hds.1
  have hd : isDigit d = true := hds.2 d (by simp)
  rcases hsign with rfl | rfl | rfl
  · have hplus : d ≠ 0x2B := ne_of_isDigit hd rfl
    have hminus : d ≠ 0x2D := ne_of_isDigit hd rfl
    simp [exponentSign, hplus, hminus]
  · rfl
  · rfl

theorem skipExponent_append {sign ds rest : Bytes} (hsign : sign = [] ∨ sign = [0x2B] ∨ sign = [0x2D])
    (hds : IsDigits ds) (hr : PastDigits rest) : skipExponent (sign ++ ds ++ rest) = .ok rest := by
  rw [skipExponent, exponentSign_append hsign hds]
  obtain ⟨d, ds, rfl⟩ := List.exists_cons_of_ne_nil hds.1
  have htail : ∀ b ∈ ds, isDigit b = true := fun b hb => hds.2 b (by simp [hb])
  simp [hds.2 d (by simp), skipDigits_append htail hr]

theorem skipTail_cons {b : UInt8} (hb : b ≠ 0x2E) (rest : Bytes) :
    skipTail (b :: rest) = if isExponentMark b then skipExponent rest else .ok (b :: rest) := by
  unfold skipTail
  split
  · next he => exact absurd (List.cons.inj he).1 hb
  · next he =>
    obtain ⟨rfl, rfl⟩ := List.cons.inj he
    rfl
  · next he => cases he

/-- Behind the digits an exponent is skipped if there is one. -/
theorem skipTail_exponent {e rest : Bytes} (he : IsExponent e) (hr : Apart rest) : skipTail (e ++ rest) = .ok rest := by
  rcases he with rfl | ⟨mark, sign, ds, hmark, hsign, hds, rfl⟩
  · cases rest with
    | nil => rfl
    | cons b rest =>
      obtain ⟨hpoint, hmark⟩ := hr.of_cons
      simp [skipTail_cons hpoint, hmark]
  · have hpoint : mark ≠ 0x2E := by
      rintro rfl
      cases hmark
    rw [List.cons_append, skipTail_cons hpoint, if_pos hmark]
    exact skipExponent_append hsign hds hr.pastDigits

theorem skipTail_append {f e rest : Bytes} (hf : IsFraction f) (he : IsExponent e) (hr : Apart rest) :
    skipTail (f ++ (e ++ rest)) = .ok rest := by
  rcases hf with rfl | ⟨ds, hds, rfl⟩
  · exact skipTail_exponent he hr
  · obtain ⟨d, ds, rfl⟩ := List.exists_cons_of_ne_nil hds.1
    have hall : ∀ b ∈ ds, isDigit b = true := fun b hb => hds.2 b (by simp [hb])
    have hdigits : skipDigits (ds ++ (e ++ rest)) = e ++ rest := skipDigits_append hall (he.pastDigits hr)
    simp only [skipTail, skipFraction, List.cons_append, hds.2 d (by simp), if_true, hdigits]
    -- What a fraction is followed by is looked at as behind a whole number, but for a second point.
    rcases he with rfl | ⟨mark, sign, es, hmark, hsign, hes, rfl⟩
    · cases rest with
      | nil => rfl
      | cons b rest => simp [hr.of_cons.2]
    · simpa [hmark] using skipExponent_append hsign hes hr.pastDigits

theorem IsWhole.eq_zero_or {ds : Bytes} (h : IsWhole ds) :
    ds = [0x30] ∨ ∃ d tail, ds = d :: tail ∧ d ≠ 0x30 ∧ isDigit d = true ∧ ∀ b ∈ tail, isDigit b = true := by
  obtain ⟨⟨hne, hall⟩, hlead⟩ := h
  obtain ⟨d, tail, rfl⟩ := List.exists_cons_of_ne_nil hne
  by_cases hd : d = 0x30
  · exact .inl (hlead (by rw [hd]; rfl))
  · exact .inr ⟨d, tail, rfl, hd, hall d (by simp), fun b hb => hall b (by simp [hb])⟩

theorem skipUnsigned_append {whole f e rest : Bytes} (hw : IsWhole whole) (hf : IsFraction f) (he : IsExponent e)
    (hr : Apart rest) : skipUnsigned (whole ++ (f ++ (e ++ rest))) = .ok rest := by
  have htail := skipTail_append hf he hr
  have hpast := hf.pastDigits he hr
  generalize f ++ (e ++ rest) = tail at htail hpast
  rcases hw.eq_zero_or with rfl | ⟨d, ds, rfl, hne, hd, hds⟩
  · cases tail with
    | nil => exact htail
    | cons c tail => simpa [skipUnsigned, hpast c rfl] using htail
  · simpa [skipUnsigned, hne, hd, skipDigits_append hds hpast] using htail

theorem skipScalar_digit {b : UInt8} (hb : isDigit b = true) (rest : Bytes) :
    skipScalar b rest = skipUnsigned (b :: rest) := by
  unfold skipScalar
  split
  · exact absurd hb (by decide)
  · exact absurd hb (by decide)
  · exact absurd hb (by decide)
  · exact absurd hb (by decide)
  · exact absurd hb (by decide)
  · rw [if_pos hb]

theorem IsNumber.skipScalar {literal rest : Bytes} (h : IsNumber literal) (hr : Apart rest) :
    ∃ b tail, literal ++ rest = b :: tail ∧ (isDigit b = true ∨ b = 0x2D) ∧ Json.skipScalar b tail = .ok rest := by
  obtain ⟨sign, whole, f, e, hsign, hw, hf, he, rfl⟩ := h
  have hskip := skipUnsigned_append hw hf he hr
  rcases hsign with rfl | rfl
  · obtain ⟨d, ds, rfl⟩ := List.exists_cons_of_ne_nil hw.1.1
    have hd : isDigit d = true := hw.1.2 d (by simp)
    refine ⟨d, ds ++ (f ++ (e ++ rest)), by simp, .inl hd, ?_⟩
    rw [skipScalar_digit hd]
    exact hskip
  · exact ⟨0x2D, whole ++ (f ++ (e ++ rest)), by simp, .inr rfl, hskip⟩

/-! ## Open brackets -/

/-- The skipper inside a bracket: in front of the first item, or behind one. -/
def skipInside (top : Bracket) (first : Bool) (stack : List Bracket) (bs : Bytes) : Except Fault Bytes :=
  if first then skipOpened top stack bs else skipEnded (top :: stack) bs

theorem isBlank_close (top : Bracket) : isBlank top.close = false := by cases top <;> decide

theorem skipInside_close {top : Bracket} {first : Bool} {stack : List Bracket} {bs rest : Bytes}
    (h : Blanks bs (top.close :: rest)) : skipInside top first stack bs = skipEnded stack rest := by
  have hd : dropBlanks bs = top.close :: rest := h.dropBlanks_eq (isBlank_close top)
  cases first with
  | true => exact (skipOpened_eq stack hd).trans (if_pos rfl)
  | false =>
    have hcomma : top.close ≠ 0x2C := by cases top <;> decide
    exact (skipEnded_eq stack hd).trans ((if_neg hcomma).trans (if_pos rfl))

/-- An item on its way is met at its value, once its label is passed. -/
theorem skipInside_next (top : Bracket) {first : Bool} {stack : List Bracket} {bs c v tail : Bytes} {b : UInt8}
    (hc : Comma Blanks first bs c) (hcb : Blanks c (b :: tail)) (hb : isBlank b = false) (hne : b ≠ top.close)
    (hl : ∀ c', Blanks c' (b :: tail) → ∃ l, skipLabel top c' = .ok l ∧ Blanks l v) :
    ∃ l, Blanks l v ∧ skipInside top first stack bs = skipDue (top :: stack) l := by
  cases first with
  | true =>
    -- The first item is looked at behind the blanks, the others right behind the comma.
    obtain rfl : bs = c := hc
    obtain ⟨l, hskip, hv⟩ := hl _ (.refl _)
    refine ⟨l, hv, (skipOpened_eq stack (hcb.dropBlanks_eq hb)).trans ?_⟩
    rw [if_neg hne, hskip]
    rfl
  | false =>
    obtain ⟨l, hskip, hv⟩ := hl c hcb
    refine ⟨l, hv, (skipEnded_eq stack (Blanks.dropBlanks_eq hc rfl)).trans ?_⟩
    rw [if_pos rfl, hskip]
    rfl

theorem skipColon_of_blanks {bs rest : Bytes} (h : Blanks bs (0x3A :: rest)) : skipColon bs = .ok rest := by
  unfold skipColon
  rw [h.dropBlanks_eq rfl]
  rfl

theorem skipLabel_object {c raw m n : Bytes} (hraw : IsRaw raw) (hc : Blanks c (0x22 :: (raw ++ 0x22 :: m)))
    (hm : Blanks m (0x3A :: n)) : skipLabel .object c = .ok n := by
  rw [skipLabel, hc.dropBlanks_eq rfl]
  exact bind_eq_ok_iff.2 ⟨m, hraw.skipText m, skipColon_of_blanks hm⟩

/-! ## Values -/

/-- However a tree is spelled, it is skipped, and what comes then is up to the brackets around it. -/
def Passes (t : Tree Bytes) : Prop :=
  ∀ ⦃stack bs v rest⦄, Blanks bs v → Spells .loose t v rest → Apart rest → skipDue stack bs = skipEnded stack rest

theorem Elements.skipInside {first : Bool} {ts : List (Tree Bytes)} {bs rest : Bytes}
    (h : Elements Blanks (Spells .loose) first ts bs rest) (hts : ∀ t ∈ ts, Passes t) (stack : List Bracket) :
    skipInside .list first stack bs = skipEnded stack rest := by
  induction h with
  | close hd => exact skipInside_close hd
  | next hc hcv ht hmore ih =>
    -- No value starts with the closing bracket, so that this one is not taken for the end.
    obtain ⟨b, tail, k, rfl, hk⟩ := ht.front sharp_quotedRaw
    have hne : b ≠ 0x5D := by
      rintro rfl
      cases hk
    obtain ⟨l, hl, he⟩ := skipInside_next .list hc hcv (isBlank_of_kindOf? hk) hne fun c' hc' => ⟨c', rfl, hc'⟩
    rw [he, hts _ List.mem_cons_self hl ht (hmore.apart isGap_blanks)]
    exact ih fun t ht => hts t (by simp [ht])

theorem Members.skipInside {first : Bool} {ms : List (Bytes × Tree Bytes)} {bs rest : Bytes}
    (h : Members Blanks QuotedRaw (Spells .loose) first ms bs rest) (hms : ∀ m ∈ ms, Passes m.2)
    (stack : List Bracket) : skipInside .object first stack bs = skipEnded stack rest := by
  induction h with
  | close hd => exact skipInside_close hd
  | next hc hcl hk hmn hnv ht hmore ih =>
    obtain ⟨hraw, rfl⟩ := hk
    obtain ⟨l, hl, he⟩ := skipInside_next .object hc hcl (by decide) (by decide) fun c' hc' =>
      ⟨_, skipLabel_object hraw hc' hmn, hnv⟩
    rw [he, hms _ List.mem_cons_self hl ht (hmore.apart isGap_blanks)]
    exact ih fun m hm => hms m (by simp [hm])

theorem passes (t : Tree Bytes) : Passes t := by
  induction t using Tree.induct with
  | null =>
    intro stack bs v rest hbs ht _
    cases ht
    exact skipDue_scalar (hbs.dropBlanks_eq rfl) (by decide) (by decide) rfl
  | boolean value =>
    intro stack bs v rest hbs ht _
    cases ht
    · exact skipDue_scalar (hbs.dropBlanks_eq rfl) (by decide) (by decide) rfl
    · exact skipDue_scalar (hbs.dropBlanks_eq rfl) (by decide) (by decide) rfl
  | number literal =>
    intro stack bs v rest hbs ht hr
    cases ht with
    | number hn =>
      obtain ⟨b, tail, he, hb, hskip⟩ := hn.skipScalar hr
      rw [he] at hbs
      have hk := kindOf?_number hb
      refine skipDue_scalar (hbs.dropBlanks_eq (isBlank_of_kindOf? hk)) ?_ ?_ hskip
      · rintro rfl
        cases hk
      · rintro rfl
        cases hk
  | text s =>
    intro stack bs v rest hbs ht _
    cases ht with
    | text hs =>
      obtain ⟨hraw, rfl⟩ := hs
      exact skipDue_scalar (hbs.dropBlanks_eq rfl) (by decide) (by decide) (hraw.skipText rest)
  | list ts ih =>
    intro stack bs v rest hbs ht _
    cases ht with
    | list hts =>
      rw [skipDue_eq stack (hbs.dropBlanks_eq rfl), if_pos rfl]
      exact hts.skipInside ih stack
  | object ms ih =>
    intro stack bs v rest hbs ht _
    cases ht with
    | object hms =>
      rw [skipDue_eq stack (hbs.dropBlanks_eq rfl), if_neg (by decide), if_pos rfl]
      exact hms.skipInside ih stack

/-- What spells a value is skipped. -/
theorem skipValue_of_spells {t : Tree Bytes} {bs v rest : Bytes} (hbs : Blanks bs v) (ht : Spells .loose t v rest)
    (hr : Apart rest) : skipValue bs = .ok rest := by
  rw [skipValue, passes t hbs ht hr, skipEnded]

end QueryAudit.Json
