import QueryAudit.Proofs.Json.Skip
/-!
# JSON is unambiguous

`Spells.determined`: octets start with at most one tree, and the spelling ends in one place, as long as
what follows does not go on with a number. So a body is one text, one object or one array at most.
-/

namespace QueryAudit.Json

/-! ## Behind blanks -/

/-- Blanks are dropped up to the first octet that is none. -/
theorem Blanks.dropBlanks_eq {bs tail : Bytes} {b : UInt8} (h : Blanks bs (b :: tail))
    (hb : isBlank b = false) : dropBlanks bs = b :: tail := by
  obtain ⟨g, hg, rfl⟩ := h
  rw [dropBlanks, List.dropWhile_append_of_pos hg, List.dropWhile_cons_of_neg (by simp [hb])]

theorem Blanks.dropBlanks_eq_nil {bs : Bytes} (h : Blanks bs []) : dropBlanks bs = [] := by
  obtain ⟨g, hg, rfl⟩ := h
  rw [dropBlanks, List.dropWhile_append_of_pos hg, List.dropWhile_nil]

/-- Only one octet that is no blank stands first. -/
theorem Blanks.unique {bs tail tail' : Bytes} {b b' : UInt8} (h : Blanks bs (b :: tail))
    (h' : Blanks bs (b' :: tail')) (hb : isBlank b = false) (hb' : isBlank b' = false) :
    b = b' ∧ tail = tail' :=
  List.cons.inj ((h.dropBlanks_eq hb).symm.trans (h'.dropBlanks_eq hb'))

/-- What may stand between tokens is blank. -/
def IsGap (gap : Bytes → Bytes → Prop) : Prop := ∀ ⦃bs rest⦄, gap bs rest → Blanks bs rest

theorem isGap_blanks : IsGap Blanks := fun _ _ h => h

theorem isGap_eq : IsGap Eq := fun bs _ h => h ▸ .refl bs

/-- An octet that a number may hold. -/
def isNumberOctet (b : UInt8) : Bool := isDigit b || isExponentMark b || b == 0x2D || b == 0x2B || b == 0x2E

/-- What follows is no more of a number. -/
def Apart (rest : Bytes) : Prop := ∀ b ∈ rest.head?, isNumberOctet b = false

theorem isNumberOctet_of_isBlank {b : UInt8} (h : isBlank b = true) : isNumberOctet b = false := by
  simp only [isBlank, Bool.or_eq_true, beq_iff_eq] at h
  rcases h with ((rfl | rfl) | rfl) | rfl <;> decide

theorem Apart.of_blanks {bs rest : Bytes} (h : Blanks bs rest) (hr : Apart rest) : Apart bs := by
  obtain ⟨g, hg, rfl⟩ := h
  cases g with
  | nil => exact hr
  | cons b g =>
    intro c hc
    simp only [List.cons_append, List.head?_cons, Option.mem_some_iff] at hc
    subst hc
    exact isNumberOctet_of_isBlank (hg b (by simp))

theorem apart_nil : Apart [] := by simp [Apart]

theorem apart_cons {b : UInt8} (rest : Bytes) (h : isNumberOctet b = false) : Apart (b :: rest) := by
  simpa [Apart] using h

/-! ## Numbers -/

theorem isNumberOctet_of_isDigit {b : UInt8} (h : isDigit b = true) : isNumberOctet b = true := by
  simp [isNumberOctet, h]

theorem IsNumber.isNumberOctet {literal : Bytes} (h : IsNumber literal) {b : UInt8} (hb : b ∈ literal) :
    isNumberOctet b = true := by
  obtain ⟨sign, whole, fraction, exponent, hsign, hwhole, hfraction, hexponent, rfl⟩ := h
  simp only [List.append_assoc, List.mem_append] at hb
  rcases hb with hb | hb | hb | hb
  · rcases hsign with rfl | rfl
    · cases hb
    · rw [List.mem_singleton.1 hb]
      decide
  · exact isNumberOctet_of_isDigit (hwhole.1.2 b hb)
  · rcases hfraction with rfl | ⟨ds, hds, rfl⟩
    · cases hb
    · rcases List.mem_cons.1 hb with rfl | hb
      · decide
      · exact isNumberOctet_of_isDigit (hds.2 b hb)
  · rcases hexponent with rfl | ⟨mark, sign, ds, hmark, hsign, hds, rfl⟩
    · cases hb
    · rcases List.mem_cons.1 hb with rfl | hb
      · simp [Json.isNumberOctet, hmark]
      rcases List.mem_append.1 hb with hb | hb
      · rcases hsign with rfl | rfl | rfl
        · cases hb
        · rw [List.mem_singleton.1 hb]
          decide
        · rw [List.mem_singleton.1 hb]
          decide
      · exact isNumberOctet_of_isDigit (hds.2 b hb)

/-- A number is all the octets up to where something else follows. -/
theorem IsNumber.unique {literal literal' rest rest' : Bytes} (h : IsNumber literal) (h' : IsNumber literal')
    (hr : Apart rest) (hr' : Apart rest') (he : literal ++ rest = literal' ++ rest') :
    literal = literal' ∧ rest = rest' := by
  -- Either literal is the longest run of such octets in front.
  have taken {literal rest : Bytes} (h : IsNumber literal) (hr : Apart rest) :
      (literal ++ rest).takeWhile Json.isNumberOctet = literal := by
    rw [List.takeWhile_append_of_pos fun b hb => h.isNumberOctet hb]
    cases rest with
    | nil => simp
    | cons b rest =>
      rw [List.takeWhile_cons_of_neg (by simp [hr b rfl]), List.append_nil]
  have hl : literal = literal' := by rw [← taken h hr, he, taken h' hr']
  subst hl
  exact ⟨rfl, List.append_cancel_left he⟩

theorem IsNumber.eq_cons {literal : Bytes} (h : IsNumber literal) :
    ∃ b tail, literal = b :: tail ∧ (isDigit b = true ∨ b = 0x2D) := by
  obtain ⟨sign, whole, fraction, exponent, hsign, hwhole, -, -, rfl⟩ := h
  obtain ⟨b, tail, rfl⟩ := List.exists_cons_of_ne_nil hwhole.1.1
  rcases hsign with rfl | rfl
  · exact ⟨b, _, rfl, .inl (hwhole.1.2 b (by simp))⟩
  · exact ⟨0x2D, _, rfl, .inr rfl⟩

/-! ## The first octet -/

/-- The kinds of values, told by the first octet. -/
inductive Kind
  | null
  | boolean (value : Bool)
  | number
  | text
  | list
  | object

/-- The kind of a tree. -/
def Tree.kind {τ : Type} : Tree τ → Kind
  | .null => .null
  | .boolean value => .boolean value
  | .number _ => .number
  | .text _ => .text
  | .list _ => .list
  | .object _ => .object

/-- The kind of the values that start with an octet. -/
def kindOf? (b : UInt8) : Option Kind :=
  if b = 0x6E then some .null
  else if b = 0x74 then some (.boolean true)
  else if b = 0x66 then some (.boolean false)
  else if b = 0x22 then some .text
  else if b = 0x5B then some .list
  else if b = 0x7B then some .object
  else if isDigit b || b == 0x2D then some .number
  else none

theorem kindOf?_number {b : UInt8} (h : isDigit b = true ∨ b = 0x2D) : kindOf? b = some .number := by
  have hne (c : UInt8) (hd : isDigit c = false) (hm : c ≠ 0x2D) : b ≠ c := by
    rintro rfl
    rcases h with h | h
    · rw [hd] at h
      cases h
    · exact hm h
  unfold kindOf?
  rw [if_neg (hne 0x6E (by decide) (by decide)), if_neg (hne 0x74 (by decide) (by decide)),
    if_neg (hne 0x66 (by decide) (by decide)), if_neg (hne 0x22 (by decide) (by decide)),
    if_neg (hne 0x5B (by decide) (by decide)), if_neg (hne 0x7B (by decide) (by decide)), if_pos (by simpa using h)]

/-- A value starts here. -/
def Front (bs : Bytes) : Prop := ∃ b tail k, bs = b :: tail ∧ kindOf? b = some k

theorem kindOf?_of_isBlank {b : UInt8} (h : isBlank b = true) : kindOf? b = none := by
  simp only [isBlank, Bool.or_eq_true, beq_iff_eq] at h
  rcases h with ((rfl | rfl) | rfl) | rfl <;> rfl

theorem isBlank_of_kindOf? {b : UInt8} {k : Kind} (h : kindOf? b = some k) : isBlank b = false := by
  rw [Bool.eq_false_iff]
  intro hb
  rw [kindOf?_of_isBlank hb] at h
  cases h

/-- Texts are told apart, and begin with a quotation mark. -/
structure Sharp {τ : Type} (text : τ → Bytes → Bytes → Prop) : Prop where
  mark {s bs rest} : text s bs rest → ∃ tail, bs = 0x22 :: tail
  unique {s s' bs rest rest'} : text s bs rest → text s' bs rest' → s = s' ∧ rest = rest'

theorem sharp_quoted : Sharp Quoted where
  mark := fun ⟨raw, _, he⟩ => ⟨raw ++ _, he⟩
  unique := Quoted.unique

theorem sharp_quotedRaw : Sharp QuotedRaw where
  mark := fun ⟨_, he⟩ => ⟨_, he⟩
  unique := QuotedRaw.unique

variable {τ : Type} {σ : Spelling τ}

theorem Spells.kind (hs : Sharp σ.text) {t : Tree τ} {bs rest : Bytes} (h : Spells σ t bs rest) :
    ∃ b tail, bs = b :: tail ∧ kindOf? b = some t.kind := by
  cases h with
  | null => exact ⟨0x6E, _, rfl, rfl⟩
  | true => exact ⟨0x74, _, rfl, rfl⟩
  | false => exact ⟨0x66, _, rfl, rfl⟩
  | number h =>
    obtain ⟨b, tail, rfl, hb⟩ := h.eq_cons
    exact ⟨b, _, rfl, kindOf?_number hb⟩
  | text h =>
    obtain ⟨tail, rfl⟩ := hs.mark h
    exact ⟨0x22, tail, rfl, rfl⟩
  | list h => exact ⟨0x5B, _, rfl, rfl⟩
  | object h => exact ⟨0x7B, _, rfl, rfl⟩

theorem Spells.front (hs : Sharp σ.text) {t : Tree τ} {bs rest : Bytes} (h : Spells σ t bs rest) : Front bs := by
  obtain ⟨b, tail, he, hk⟩ := h.kind hs
  exact ⟨b, tail, _, he, hk⟩

theorem Spells.kind_unique (hs : Sharp σ.text) {t t' : Tree τ} {bs rest rest' : Bytes} (h : Spells σ t bs rest)
    (h' : Spells σ t' bs rest') : t.kind = t'.kind := by
  obtain ⟨b, tail, rfl, hk⟩ := h.kind hs
  obtain ⟨b', tail', he, hk'⟩ := h'.kind hs
  obtain ⟨rfl, -⟩ := List.cons.inj he
  exact Option.some.inj (hk.symm.trans hk')

/-- A value that starts with a quotation mark is a text. -/
theorem Spells.of_quote (hs : Sharp σ.text) {t : Tree τ} {bs rest : Bytes} (h : Spells σ t (0x22 :: bs) rest) :
    ∃ s, t = .text s ∧ σ.text s (0x22 :: bs) rest := by
  obtain ⟨b, tail, he, hk⟩ := h.kind hs
  obtain ⟨rfl, rfl⟩ := List.cons.inj he
  cases t <;> simp [kindOf?, Tree.kind] at hk
  cases h with
  | text h => exact ⟨_, rfl, h⟩

/-- A value that starts with a brace is an object. -/
theorem Spells.of_brace (hs : Sharp σ.text) {t : Tree τ} {bs rest : Bytes} (h : Spells σ t (0x7B :: bs) rest) :
    ∃ ms, t = .object ms ∧ Members σ.gap σ.text (Spells σ) Bool.true ms bs rest := by
  obtain ⟨b, tail, he, hk⟩ := h.kind hs
  obtain ⟨rfl, rfl⟩ := List.cons.inj he
  cases t <;> simp [kindOf?, Tree.kind] at hk
  cases h with
  | object h => exact ⟨_, rfl, h⟩

/-! ## Items between brackets -/

section items

variable {α κ : Type} {gap : Bytes → Bytes → Prop}

/-- Two spellings of a thing that start alike are spellings of the same thing and end alike. -/
def Determined (value : α → Bytes → Bytes → Prop) (a : α) : Prop :=
  ∀ ⦃a' v e e'⦄, value a v e → value a' v e' → Apart e → Apart e' → a = a' ∧ e = e'

theorem Comma.unique (hgap : IsGap gap) {first : Bool} {bs c c' : Bytes}
    (h : Comma gap first bs c) (h' : Comma gap first bs c') : c = c' := by
  cases first with
  | true => exact h.symm.trans h'
  | false => exact (Blanks.unique (hgap h) (hgap h') rfl rfl).2

/-- The way to an item begins, blanks apart, with a comma or with the item. -/
theorem Comma.front (hgap : IsGap gap) {first : Bool} {bs c tail : Bytes}
    {b : UInt8} (h : Comma gap first bs c) (hc : gap c (b :: tail)) :
    ∃ b' tail', Blanks bs (b' :: tail') ∧ (b' = 0x2C ∨ b' = b) := by
  cases first with
  | true =>
    obtain rfl : bs = c := h
    exact ⟨b, tail, hgap hc, .inr rfl⟩
  | false => exact ⟨0x2C, c, hgap h, .inl rfl⟩

/-- A closing bracket is not on the way to an item. -/
theorem Comma.not_close (hgap : IsGap gap) {first : Bool} {bs c tail rest : Bytes}
    {b d : UInt8} (h : Comma gap first bs c) (hc : gap c (b :: tail)) (hd : gap bs (d :: rest))
    (hne : d ≠ b) (hb : isBlank b = false) (hd' : isBlank d = false)
    (hcomma : d ≠ 0x2C) : False := by
  obtain ⟨b', tail', hb', hor⟩ := h.front hgap hc
  rcases hor with rfl | rfl
  · exact hcomma (Blanks.unique (hgap hd) hb' hd' rfl).1
  · exact hne (Blanks.unique (hgap hd) hb' hd' hb).1

theorem Elements.apart (hgap : IsGap gap) {value : α → Bytes → Bytes → Prop}
    {as : List α} {bs rest : Bytes} (h : Elements gap value false as bs rest) : Apart bs := by
  cases h with
  | close h => exact .of_blanks (hgap h) (apart_cons _ rfl)
  | next h _ _ _ => exact .of_blanks (hgap h) (apart_cons _ rfl)

theorem Members.apart (hgap : IsGap gap) {key : κ → Bytes → Bytes → Prop}
    {value : α → Bytes → Bytes → Prop} {as : List (κ × α)} {bs rest : Bytes}
    (h : Members gap key value false as bs rest) : Apart bs := by
  cases h with
  | close h => exact .of_blanks (hgap h) (apart_cons _ rfl)
  | next h _ _ _ _ _ _ => exact .of_blanks (hgap h) (apart_cons _ rfl)

theorem Front.unique {c v v' : Bytes} (h : Blanks c v) (h' : Blanks c v') (hv : Front v) (hv' : Front v') :
    v = v' := by
  obtain ⟨b, tail, k, rfl, hk⟩ := hv
  obtain ⟨b', tail', k', rfl, hk'⟩ := hv'
  obtain ⟨rfl, rfl⟩ := Blanks.unique h h' (isBlank_of_kindOf? hk) (isBlank_of_kindOf? hk')
  rfl

/-- A closing bracket starts no value. -/
theorem Front.not_close (hgap : IsGap gap) {first : Bool} {bs c v rest : Bytes} (h : Comma gap first bs c)
    (hc : gap c v) (hv : Front v) (hd : gap bs (0x5D :: rest)) : False := by
  obtain ⟨b, tail, k, rfl, hk⟩ := hv
  refine h.not_close hgap hc hd ?_ (isBlank_of_kindOf? hk) rfl (by decide)
  rintro rfl
  cases hk

theorem Elements.unique (hgap : IsGap gap) {value : α → Bytes → Bytes → Prop}
    (hfront : ∀ {a v e}, value a v e → Front v) {first : Bool} {as as' : List α} {bs rest rest' : Bytes}
    (h : Elements gap value first as bs rest) (h' : Elements gap value first as' bs rest')
    (hv : ∀ a ∈ as, Determined value a) : as = as' ∧ rest = rest' := by
  induction h generalizing as' with
  | close hd =>
    cases h' with
    | close hd' => exact ⟨rfl, (Blanks.unique (hgap hd) (hgap hd') rfl rfl).2⟩
    | next hc hcv ht _ => exact (Front.not_close hgap hc hcv (hfront ht) hd).elim
  | next hc hcv ht hmore ih =>
    -- The same comma, the same value behind it, and then the rest.
    cases h' with
    | close hd' => exact (Front.not_close hgap hc hcv (hfront ht) hd').elim
    | next hc' hcv' ht' hmore' =>
      obtain rfl := hc.unique hgap hc'
      obtain rfl := Front.unique (hgap hcv) (hgap hcv') (hfront ht) (hfront ht')
      obtain ⟨rfl, rfl⟩ := hv _ List.mem_cons_self ht ht' (hmore.apart hgap) (hmore'.apart hgap)
      obtain ⟨rfl, rfl⟩ := ih hmore' fun a ha => hv a (by simp [ha])
      exact ⟨rfl, rfl⟩

theorem Members.unique (hgap : IsGap gap) {key : κ → Bytes → Bytes → Prop}
    (hkey : Sharp key) {value : α → Bytes → Bytes → Prop} (hfront : ∀ {a v e}, value a v e → Front v) {first : Bool}
    {as as' : List (κ × α)} {bs rest rest' : Bytes} (h : Members gap key value first as bs rest)
    (h' : Members gap key value first as' bs rest') (hv : ∀ a ∈ as, Determined value a.2) :
    as = as' ∧ rest = rest' := by
  induction h generalizing as' with
  | close hd =>
    cases h' with
    | close hd' => exact ⟨rfl, (Blanks.unique (hgap hd) (hgap hd') rfl rfl).2⟩
    | next hc hcl hk _ _ _ _ =>
      obtain ⟨tail, rfl⟩ := hkey.mark hk
      exact (hc.not_close hgap hcl hd (by decide) rfl rfl (by decide)).elim
  | next hc hcl hk hmn hnv ht hmore ih =>
    obtain ⟨tail, rfl⟩ := hkey.mark hk
    cases h' with
    | close hd' => exact (hc.not_close hgap hcl hd' (by decide) rfl rfl (by decide)).elim
    | next hc' hcl' hk' hmn' hnv' ht' hmore' =>
      obtain rfl := hc.unique hgap hc'
      obtain ⟨tail', rfl⟩ := hkey.mark hk'
      obtain ⟨-, rfl⟩ := Blanks.unique (hgap hcl) (hgap hcl') rfl rfl
      obtain ⟨rfl, rfl⟩ := hkey.unique hk hk'
      obtain ⟨-, rfl⟩ := Blanks.unique (hgap hmn) (hgap hmn') rfl rfl
      obtain rfl := Front.unique (hgap hnv) (hgap hnv') (hfront ht) (hfront ht')
      obtain ⟨rfl, rfl⟩ := hv _ List.mem_cons_self ht ht' (hmore.apart hgap) (hmore'.apart hgap)
      obtain ⟨rfl, rfl⟩ := ih hmore' fun a ha => hv a (by simp [ha])
      exact ⟨rfl, rfl⟩

end items

/-! ## Trees -/

/-- Induction on a tree: what holds of the elements of a list, or of the values in an object, may be used for it. -/
theorem Tree.induct {P : Tree τ → Prop} (null : P .null) (boolean : ∀ value, P (.boolean value))
    (number : ∀ literal, P (.number literal)) (text : ∀ s, P (.text s))
    (list : ∀ ts, (∀ t ∈ ts, P t) → P (.list ts))
    (object : ∀ ms : List (τ × Tree τ), (∀ m ∈ ms, P m.2) → P (.object ms)) (t : Tree τ) : P t :=
  @Tree.rec τ P (fun ts => ∀ t ∈ ts, P t) (fun ms => ∀ m ∈ ms, P m.2) (fun m => P m.2) null boolean number text list
    object (by simp) (fun _ _ ht hts => List.forall_mem_cons.2 ⟨ht, hts⟩) (by simp)
    (fun _ _ hm hms => List.forall_mem_cons.2 ⟨hm, hms⟩) (fun _ _ ht => ht) t

/-- Octets start with one tree at most. -/
theorem Spells.determined (hgap : IsGap σ.gap) (hs : Sharp σ.text) (t : Tree τ) :
    Determined (Spells σ) t := by
  -- The first octet tells the kind, so that the second spelling was made by the same rule as the first.
  induction t using Tree.induct with
  | null =>
    intro t' bs rest rest' h h' _ _
    have hk := h.kind_unique hs h'
    cases t' <;> simp only [Tree.kind, reduceCtorEq] at hk
    cases h
    cases h'
    exact ⟨rfl, rfl⟩
  | boolean value =>
    intro t' bs rest rest' h h' _ _
    have hk := h.kind_unique hs h'
    cases t' <;> simp only [Tree.kind, reduceCtorEq, Kind.boolean.injEq] at hk
    subst hk
    cases h <;> cases h' <;> exact ⟨rfl, rfl⟩
  | number literal =>
    intro t' bs rest rest' h h' hr hr'
    have hk := h.kind_unique hs h'
    cases t' <;> simp only [Tree.kind, reduceCtorEq] at hk
    generalize hbs : bs = bs' at h'
    cases h with
    | number hn =>
      cases h' with
      | number hn' =>
        obtain ⟨rfl, rfl⟩ := hn.unique hn' hr hr' hbs
        exact ⟨rfl, rfl⟩
  | text s =>
    intro t' bs rest rest' h h' _ _
    have hk := h.kind_unique hs h'
    cases t' <;> simp only [Tree.kind, reduceCtorEq] at hk
    cases h with
    | text h =>
      cases h' with
      | text h' =>
        obtain ⟨rfl, rfl⟩ := hs.unique h h'
        exact ⟨rfl, rfl⟩
  | list ts ih =>
    intro t' bs rest rest' h h' _ _
    have hk := h.kind_unique hs h'
    cases t' <;> simp only [Tree.kind, reduceCtorEq] at hk
    cases h with
    | list h =>
      cases h' with
      | list h' =>
        obtain ⟨rfl, rfl⟩ := h.unique hgap (Spells.front hs) h' ih
        exact ⟨rfl, rfl⟩
  | object ms ih =>
    intro t' bs rest rest' h h' _ _
    have hk := h.kind_unique hs h'
    cases t' <;> simp only [Tree.kind, reduceCtorEq] at hk
    cases h with
    | object h =>
      cases h' with
      | object h' =>
        obtain ⟨rfl, rfl⟩ := h.unique hgap hs (Spells.front hs) h' ih
        exact ⟨rfl, rfl⟩

/-! ## Blanks that are not there -/

theorem Comma.mono {gap gap' : Bytes → Bytes → Prop} (hgap : ∀ {bs rest}, gap bs rest → gap' bs rest) {first : Bool}
    {bs rest : Bytes} (h : Comma gap first bs rest) : Comma gap' first bs rest := by
  cases first with
  | true => exact h
  | false => exact hgap h

theorem Elements.mono {α : Type} {gap gap' : Bytes → Bytes → Prop} {value value' : α → Bytes → Bytes → Prop}
    (hgap : ∀ {bs rest}, gap bs rest → gap' bs rest) {first : Bool} {as : List α} {bs rest : Bytes}
    (h : Elements gap value first as bs rest) (hv : ∀ a ∈ as, ∀ {v e}, value a v e → value' a v e) :
    Elements gap' value' first as bs rest := by
  induction h with
  | close hd => exact .close (hgap hd)
  | next hc hcv ht _ ih =>
    exact .next (hc.mono hgap) (hgap hcv) (hv _ List.mem_cons_self ht) (ih fun a ha => hv a (by simp [ha]))

theorem Members.mono {κ α : Type} {gap gap' : Bytes → Bytes → Prop} {key : κ → Bytes → Bytes → Prop}
    {value value' : α → Bytes → Bytes → Prop} (hgap : ∀ {bs rest}, gap bs rest → gap' bs rest) {first : Bool}
    {as : List (κ × α)} {bs rest : Bytes} (h : Members gap key value first as bs rest)
    (hv : ∀ a ∈ as, ∀ {v e}, value a.2 v e → value' a.2 v e) : Members gap' key value' first as bs rest := by
  induction h with
  | close hd => exact .close (hgap hd)
  | next hc hcl hk hmn hnv ht _ ih =>
    exact .next (hc.mono hgap) (hgap hcl) hk (hgap hmn) (hgap hnv) (hv _ List.mem_cons_self ht)
      (ih fun a ha => hv a (by simp [ha]))

/-- A spelling without blanks is one that may have blanks. -/
theorem Spells.standard {t : Tree (List Char)} {bs rest : Bytes} (h : Spells .compact t bs rest) :
    Spells .standard t bs rest := by
  induction t using Tree.induct generalizing bs rest with
  | null =>
    cases h
    exact .null
  | boolean value =>
    cases h
    · exact .true
    · exact .false
  | number literal =>
    cases h with
    | number h => exact .number h
  | text s =>
    cases h with
    | text h => exact .text h
  | list ts ih =>
    cases h with
    | list h => exact .list (h.mono (isGap_eq ·) ih)
  | object ms ih =>
    cases h with
    | object h => exact .object (h.mono (isGap_eq ·) ih)

theorem IsText.standard {t : Tree (List Char)} {body : Bytes} (h : IsText .compact t body) :
    IsText .standard t body := by
  obtain ⟨bs, rest, rfl, ht, rfl⟩ := h
  exact ⟨body, [], .refl body, ht.standard, .refl []⟩

/-! ## Whole bodies -/

/-- A body is one text at most. -/
theorem IsText.unique (hgap : IsGap σ.gap) (hs : Sharp σ.text) {t t' : Tree τ}
    {body : Bytes} (h : IsText σ t body) (h' : IsText σ t' body) : t = t' := by
  obtain ⟨bs, rest, hbs, ht, hrest⟩ := h
  obtain ⟨bs', rest', hbs', ht', hrest'⟩ := h'
  obtain rfl := Front.unique (hgap hbs) (hgap hbs') (ht.front hs) (ht'.front hs)
  exact (Spells.determined hgap hs t ht ht' (.of_blanks (hgap hrest) apart_nil)
    (.of_blanks (hgap hrest') apart_nil)).1

/-- A body is one object at most. -/
theorem IsObject.unique {ms ms' : List (List Char × Tree Bytes)} {body : Bytes} (h : IsObject ms body)
    (h' : IsObject ms' body) : ms = ms' := by
  obtain ⟨bs, rest, hbs, hms, -⟩ := h
  obtain ⟨bs', rest', hbs', hms', -⟩ := h'
  obtain ⟨-, rfl⟩ := Blanks.unique hbs hbs' rfl rfl
  exact (hms.unique isGap_blanks sharp_quoted (Spells.front sharp_quotedRaw) hms' fun m _ =>
    Spells.determined isGap_blanks sharp_quotedRaw m.2).1

/-- A body is one array at most. -/
theorem IsArray.unique {ts ts' : List (Tree Bytes)} {body : Bytes} (h : IsArray ts body)
    (h' : IsArray ts' body) : ts = ts' := by
  obtain ⟨bs, rest, hbs, hts, -⟩ := h
  obtain ⟨bs', rest', hbs', hts', -⟩ := h'
  obtain ⟨-, rfl⟩ := Blanks.unique hbs hbs' rfl rfl
  exact (hts.unique isGap_blanks (Spells.front sharp_quotedRaw) hts' fun t _ =>
    Spells.determined isGap_blanks sharp_quotedRaw t).1

/-- A body is not both. -/
theorem IsObject.not_isArray {ms : List (List Char × Tree Bytes)} {ts : List (Tree Bytes)} {body : Bytes}
    (h : IsObject ms body) : ¬IsArray ts body := by
  rintro ⟨_, _, hbs', -⟩
  obtain ⟨_, _, hbs, -⟩ := h
  have := (Blanks.unique hbs hbs' rfl rfl).1
  cases this

end QueryAudit.Json
