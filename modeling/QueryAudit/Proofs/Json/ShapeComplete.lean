import QueryAudit.Proofs.Json.Shape
import QueryAudit.Proofs.Json.SkipComplete
/-!
# Every structure is read

`Shape.decode_eq_ok_iff`: a structure is read from exactly those objects and arrays that `Shape.of_decode`
names, and the values it reads are the ones they hold. Integers may reach the limits of 64 bits, and the
members of an object may stand in any order.
-/

namespace QueryAudit.Json

/-! ## Integers -/

theorem le_foldl (ds : Bytes) (n : Nat) : n ≤ ds.foldl (fun n b => n * 10 + (b.toNat - 0x30)) n := by
  induction ds generalizing n with
  | nil => exact Nat.le_refl n
  | cons b ds ih => exact Nat.le_trans (by omega) (ih (n * 10 + (b.toNat - 0x30)))

/-- A run of digits that stays within the limit is gathered as a whole. -/
theorem gather_append {limit : Nat} {ds rest : Bytes} (hds : ∀ b ∈ ds, isDigit b = true) (hr : PastDigits rest)
    (n taken : Nat) (hle : ds.foldl (fun n b => n * 10 + (b.toNat - 0x30)) n ≤ limit) :
    gather limit n taken (ds ++ rest) =
      (ds.foldl (fun n b => n * 10 + (b.toNat - 0x30)) n, taken + ds.length, rest) := by
  induction ds generalizing n taken with
  | nil =>
    cases rest with
    | nil => rfl
    | cons c rest =>
      have hnone : digit? c = none := by simpa [isDigit] using hr c rfl
      simp [gather, hnone]
  | cons b ds ih =>
    obtain ⟨h1, h2⟩ := isDigit_iff.1 (hds b (by simp))
    have hdigit : digit? b = some (b.toNat - 0x30) := digit?_eq_some_iff.2 ⟨h1, h2, rfl⟩
    rw [List.foldl_cons] at hle
    -- The value only grows, so that no digit on the way is left over.
    have hfirst := Nat.le_trans (le_foldl ds (n * 10 + (b.toNat - 0x30))) hle
    rw [List.cons_append, gather]
    simp only [hdigit, if_pos hfirst]
    rw [ih (fun c hc => hds c (by simp [hc])) _ _ hle, List.foldl_cons, List.length_cons]
    congr 2
    omega

theorem readTail_of_apart {rest : Bytes} (hr : Apart rest) (neg : Bool) (n : Nat) :
    readTail neg n rest = .ok (ofWhole neg n, rest) := by
  unfold readTail
  split
  · exact absurd rfl hr.of_cons.1
  · rw [if_neg (by simp [hr.of_cons.2])]
  · rfl

/-- A whole number within 64 bits is read as an integer or, with a minus, as what its magnitude makes of it. -/
theorem readUnsigned_append {neg : Bool} {ds rest : Bytes} (hw : IsWhole ds) (hr : Apart rest)
    (hle : digitsValue ds ≤ greatestSignificand) :
    readUnsigned neg (ds ++ rest) = .ok (ofWhole neg (digitsValue ds), rest) := by
  have htail := readTail_of_apart hr neg
  rcases hw.eq_zero_or with rfl | ⟨d, tail, rfl, hne, hd, hall⟩
  · cases rest with
    | nil => rfl
    | cons c rest =>
      simp only [List.singleton_append, readUnsigned, if_true, hr.pastDigits c rfl, Bool.false_eq_true, if_false]
      exact htail 0
  · have hfold : digitsValue (d :: tail) = (d :: tail).foldl (fun n b => n * 10 + (b.toNat - 0x30)) 0 :=
      digitsValue_append [] (d :: tail)
    have hg := gather_append hw.1.2 hr.pastDigits 0 0 (hfold ▸ hle)
    rw [← hfold] at hg
    rw [List.cons_append] at hg ⊢
    simp only [readUnsigned, if_neg hne, if_pos hd, hg]
    cases rest with
    | nil => exact htail _
    | cons c rest => simpa [hr.pastDigits c rfl] using htail (digitsValue (d :: tail))

theorem toInt64_integer (n : Int64) (rest : Bytes) : toInt64 (.integer n.toInt, rest) = .ok (n, rest) := by
  simp [toInt64, Numeral.int64?_toInt]

/-- The literal of an integer of 64 bits is read as that integer. -/
theorem readInt64_of_isInteger {literal bs rest : Bytes} {n : Int64} (hl : IsInteger literal n.toInt)
    (hbs : Blanks bs (literal ++ rest)) (hr : Apart rest) : readInt64 bs = .ok (n, rest) := by
  have hmin := n.minValue_le_toInt
  have hmax := n.toInt_le
  rw [Int64.toInt_minValue] at hmin
  rw [Int64.toInt_maxValue] at hmax
  have hnumber (neg : Bool) {ds : Bytes} (hw : IsWhole ds) (hle : digitsValue ds ≤ greatestSignificand)
      (ho : ofWhole neg (digitsValue ds) = .integer n.toInt) :
      (readUnsigned neg (ds ++ rest)).bind toInt64 = .ok (n, rest) := by
    rw [readUnsigned_append hw hr hle, ho]
    exact toInt64_integer n rest
  -- Every magnitude of 64 bits with a sign fits the significand, that of the least integer too.
  have hlimit : greatestSignificand = 2 ^ 64 - 1 := rfl
  generalize hi : n.toInt = i at hl hmin hmax
  cases hl with
  | @natural ds hw =>
    have hread := hnumber false hw (by omega) (by rw [hi]; rfl)
    obtain ⟨d, tail, rfl⟩ := List.exists_cons_of_ne_nil hw.1.1
    have hd : isDigit d = true := hw.1.2 d (by simp)
    have hminus : d ≠ 0x2D := ne_of_isDigit hd rfl
    unfold readInt64
    rw [List.cons_append] at hbs hread
    rw [hbs.dropBlanks_eq (isBlank_of_kindOf? (kindOf?_number (.inl hd)))]
    simp only [if_neg hminus, if_pos hd, hread]
  | @negative ds hw hne =>
    have hread := hnumber true hw (by omega) (by
      rw [hi, ofWhole, if_neg (by decide), if_neg (by omega)])
    unfold readInt64
    rw [List.cons_append] at hbs
    rw [hbs.dropBlanks_eq rfl]
    simp only [if_true, hread]

/-! ## Fields -/

theorem readString_of_decodes {raw bs rest : Bytes} {s : String} (hd : Decodes raw s.toList)
    (hbs : Blanks bs (0x22 :: raw ++ 0x22 :: rest)) : readString bs = .ok (s, rest) := by
  have hread := hd.readText rest
  unfold readString
  rw [List.cons_append] at hbs
  rw [hbs.dropBlanks_eq rfl]
  simp [hread, Except.map]

variable {σ : Type}

theorem Slot.Takes.read {slot : Slot σ} {t : Tree Bytes} {state state' : σ} {bs v rest : Bytes}
    (h : slot.Takes t state state') (hbs : Blanks bs v) (ht : Spells .loose t v rest) (hr : Apart rest) :
    slot.read state bs = .ok (state', rest) := by
  cases h with
  | text hd =>
    cases ht with
    | text hs =>
      obtain ⟨-, rfl⟩ := hs
      simp [Slot.read, readString_of_decodes hd hbs, Except.map]
  | integer hl =>
    cases ht with
    | number => simp [Slot.read, readInt64_of_isInteger hl hbs hr, Except.map]

/-! ## Arrays -/

theorem nextElement_close {first : Bool} {bs rest : Bytes} (h : Blanks bs (0x5D :: rest)) :
    nextElement first bs = .ok none := by
  unfold nextElement
  rw [h.dropBlanks_eq rfl]
  simp only [if_true]

theorem endList_close {bs rest : Bytes} (h : Blanks bs (0x5D :: rest)) : endList bs = .ok rest := by
  unfold endList
  rw [h.dropBlanks_eq rfl]
  simp only [if_true]

theorem nextElement_next {first : Bool} {bs c v : Bytes} (hc : Comma Blanks first bs c) (hv : Blanks c v)
    (hf : Front v) : nextElement first bs = .ok (some v) := by
  obtain ⟨b, tail, k, rfl, hk⟩ := hf
  have hclose : b ≠ 0x5D := by
    rintro rfl
    cases hk
  have hd := hv.dropBlanks_eq (isBlank_of_kindOf? hk)
  unfold nextElement
  cases first with
  | true =>
    obtain rfl : bs = c := hc
    rw [hd]
    simp only [if_neg hclose, if_true]
  | false =>
    have hcomma : dropBlanks bs = 0x2C :: c := Blanks.dropBlanks_eq hc rfl
    rw [hcomma]
    simp only [hd, if_neg hclose]
    rfl

/-- Elements that fit the fields are read into them. -/
theorem Fits.readElements {fields : List (Field σ)} {ts : List (Tree Bytes)} {state state' : σ}
    (h : Fits fields state ts state') {first : Bool} {bs rest : Bytes}
    (hts : Elements Blanks (Spells .loose) first ts bs rest) :
    readElements fields first state bs = .ok (state', rest) := by
  induction h generalizing first bs with
  | @nil fields state =>
    cases hts with
    | close hd =>
      cases fields with
      | nil => simp [Json.readElements, endList_close hd, Except.map]
      | cons field fields => simp [Json.readElements, nextElement_close hd, endList_close hd, Except.map]
  | next htakes _ ih =>
    cases hts with
    | next hc hcv ht hmore =>
      have hread := htakes.read (.refl _) ht (hmore.apart isGap_blanks)
      rw [Json.readElements, nextElement_next hc hcv (ht.front sharp_quotedRaw)]
      simp only [hread]
      exact ih hmore

/-! ## Objects -/

theorem nextKey_close {first : Bool} {bs rest : Bytes} (h : Blanks bs (0x7D :: rest)) :
    nextKey first bs = .ok (none, rest) := by
  unfold nextKey
  rw [h.dropBlanks_eq rfl]
  simp only [if_true]

theorem nextKey_next {first : Bool} {bs c l m : Bytes} {key : List Char} (hc : Comma Blanks first bs c)
    (hl : Blanks c l) (hk : Quoted key l m) : nextKey first bs = .ok (some key, m) := by
  obtain ⟨raw, hd, rfl⟩ := hk
  have hread := hd.readText m
  have hmark : dropBlanks c = 0x22 :: (raw ++ 0x22 :: m) := Blanks.dropBlanks_eq hl rfl
  unfold nextKey
  cases first with
  | true =>
    obtain rfl : bs = c := hc
    rw [hmark]
    simp [hread, Except.map]
  | false =>
    have hcomma : dropBlanks bs = 0x2C :: c := Blanks.dropBlanks_eq hc rfl
    rw [hcomma]
    simp [hmark, hread, Except.map]

namespace Shape

variable {shape : Shape σ}

theorem readMembers_close {first : Bool} {seen : List String} {state : σ} {bs rest : Bytes}
    (h : Blanks bs (0x7D :: rest)) : shape.readMembers first seen state bs = .ok (state, rest) := by
  rw [readMembers_eq, nextKey_close h]
  rfl

/-- Members that fill the fields are read into them, whatever stands between them. -/
theorem Fills.readMembers {seen : List String} {ms : List (List Char × Tree Bytes)} {state state' : σ}
    (h : shape.Fills seen state ms state') {first : Bool} {bs rest : Bytes}
    (hms : Members Blanks Quoted (Spells .loose) first ms bs rest) :
    shape.readMembers first seen state bs = .ok (state', rest) := by
  induction h generalizing first bs with
  | nil =>
    cases hms with
    | close hd => exact readMembers_close hd
  | known hf hseen htakes _ ih =>
    cases hms with
    | next hc hcl hk hmn hnv ht hmore =>
      rw [readMembers_known (nextKey_next hc hcl hk) hf hseen (skipColon_of_blanks hmn)
        (htakes.read hnv ht (hmore.apart isGap_blanks))]
      exact ih hmore
  | unknown hf _ ih =>
    cases hms with
    | next hc hcl hk hmn hnv ht hmore =>
      rw [readMembers_unknown (nextKey_next hc hcl hk) hf (skipColon_of_blanks hmn)
        (skipValue_of_spells hnv ht (hmore.apart isGap_blanks))]
      exact ih hmore

/-! ## Structures -/

theorem decode_of_read {body rest : Bytes} {state : σ} (h : shape.read body = .ok (state, rest))
    (hrest : Blanks rest []) : shape.decode body = .ok state := by
  simp [decode, readAll, h, hrest.dropBlanks_eq_nil]

theorem decode_of_isObject {ms : List (List Char × Tree Bytes)} {body : Bytes} {state : σ} (h : IsObject ms body)
    (hfills : shape.Fills [] shape.initial ms state) : shape.decode body = .ok state := by
  obtain ⟨bs, rest, hbs, hms, hrest⟩ := h
  refine decode_of_read ?_ hrest
  unfold read
  rw [hbs.dropBlanks_eq rfl]
  exact hfills.readMembers hms

theorem decode_of_isArray {ts : List (Tree Bytes)} {body : Bytes} {state : σ} (h : IsArray ts body)
    (hfits : Fits shape.fields shape.initial ts state) : shape.decode body = .ok state := by
  obtain ⟨bs, rest, hbs, hts, hrest⟩ := h
  refine decode_of_read ?_ hrest
  unfold read
  rw [hbs.dropBlanks_eq rfl]
  exact hfits.readElements hts

/-- What a structure is read from, exactly. -/
theorem decode_eq_ok_iff {body : Bytes} {state : σ} :
    shape.decode body = .ok state ↔
      (∃ ms, IsObject ms body ∧ shape.Fills [] shape.initial ms state) ∨
        (∃ ts, IsArray ts body ∧ Fits shape.fields shape.initial ts state) := by
  constructor
  · exact of_decode
  · rintro (⟨ms, hms, hfills⟩ | ⟨ts, hts, hfits⟩)
    · exact decode_of_isObject hms hfills
    · exact decode_of_isArray hts hfits

end Shape

end QueryAudit.Json
