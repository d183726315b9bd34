import QueryAudit.Proofs.Json.Number
import QueryAudit.Proofs.Json.Text
/-!
# What is skipped is a value

`spells_of_skipValue`: octets that are skipped as a value of no interest spell a JSON value, at any
depth. The skipper holds the brackets still open on a stack; each of its three stages accounts for one
bracket level, and an induction on the octets left ties them together.
-/

namespace QueryAudit.Json

/-! ## Blanks, words and colons -/

theorem blanks_dropBlanks (bs : Bytes) : Blanks bs (dropBlanks bs) :=
  ⟨bs.takeWhile isBlank, List.all_eq_true.1 List.all_takeWhile, List.takeWhile_append_dropWhile.symm⟩

theorem Blanks.refl (bs : Bytes) : Blanks bs bs := ⟨[], by simp, rfl⟩

theorem Blanks.trans {a b c : Bytes} (h : Blanks a b) (h' : Blanks b c) : Blanks a c := by
  obtain ⟨g, hg, rfl⟩ := h
  obtain ⟨g', hg', rfl⟩ := h'
  refine ⟨g ++ g', fun b hb => ?_, by simp⟩
  rcases List.mem_append.1 hb with hb | hb
  · exact hg b hb
  · exact hg' b hb

theorem Blanks.of_dropBlanks {bs rest : Bytes} (h : dropBlanks bs = rest) : Blanks bs rest :=
  h ▸ blanks_dropBlanks bs

theorem eq_of_skipWord {word bs rest : Bytes} (h : skipWord word bs = .ok rest) : bs = word ++ rest := by
  fun_induction skipWord word bs with
  | case1 => simpa using h
  | case2 => cases h
  | case3 w word bs ih => rw [ih h, List.cons_append]
  | case4 => cases h

theorem of_skipColon {bs rest : Bytes} (h : skipColon bs = .ok rest) : Blanks bs (0x3A :: rest) := by
  unfold skipColon at h
  split at h
  · cases h
  · next hb =>
    simp only [Except.ok.injEq] at h
    exact .of_dropBlanks (h ▸ hb)
  · cases h

theorem spells_of_skipScalar {b : UInt8} {bs rest : Bytes} (h : skipScalar b bs = .ok rest) :
    ∃ t, Spells .loose t (b :: bs) rest := by
  unfold skipScalar at h
  split at h
  · rw [eq_of_skipWord h]
    exact ⟨_, .null⟩
  · rw [eq_of_skipWord h]
    exact ⟨_, .true⟩
  · rw [eq_of_skipWord h]
    exact ⟨_, .false⟩
  · obtain ⟨raw, hraw, rfl⟩ := isRaw_of_skipText h
    exact ⟨_, .text ⟨hraw, rfl⟩⟩
  · obtain ⟨literal, rfl, -, hn⟩ := of_skipUnsigned h
    have hspell : Spells .loose (.number (0x2D :: literal)) (0x2D :: literal ++ rest) rest := .number hn
    exact ⟨_, hspell⟩
  · split at h
    · obtain ⟨literal, he, hn, -⟩ := of_skipUnsigned h
      rw [he]
      exact ⟨_, .number hn⟩
    · cases h

/-! ## Open brackets -/

/-- What is left of an open bracket, up to its end. -/
def Inside (top : Bracket) (first : Bool) (bs rest : Bytes) : Prop :=
  match top with
  | .list => ∃ ts : List (Tree Bytes), Elements Blanks (Spells .loose) first ts bs rest
  | .object => ∃ ms : List (Bytes × Tree Bytes), Members Blanks QuotedRaw (Spells .loose) first ms bs rest

theorem Inside.close {top : Bracket} {first : Bool} {bs rest : Bytes} (h : Blanks bs (top.close :: rest)) :
    Inside top first bs rest := by
  cases top with
  | list => exact ⟨[], .close h⟩
  | object => exact ⟨[], .close h⟩

/-- One more item in front, behind its label. -/
theorem Inside.next {top : Bracket} {first : Bool} {bs c c' l v e rest : Bytes} {t : Tree Bytes}
    (hc : Comma Blanks first bs c) (hc' : Blanks c c') (hl : skipLabel top c' = .ok l) (hv : Blanks l v)
    (ht : Spells .loose t v e) (h : Inside top false e rest) : Inside top first bs rest := by
  cases top with
  | list =>
    obtain ⟨ts, h⟩ := h
    simp only [skipLabel, Except.ok.injEq] at hl
    subst hl
    exact ⟨t :: ts, .next hc (hc'.trans hv) ht h⟩
  | object =>
    obtain ⟨ms, h⟩ := h
    simp only [skipLabel] at hl
    split at hl
    · cases hl
    · next tail hb =>
      obtain ⟨m, hs, hm⟩ := bind_eq_ok_iff.1 hl
      obtain ⟨raw, hraw, rfl⟩ := isRaw_of_skipText hs
      have hk : Blanks c (0x22 :: (raw ++ 0x22 :: m)) := hc'.trans (.of_dropBlanks hb)
      exact ⟨(raw, t) :: ms, .next hc hk ⟨hraw, rfl⟩ (of_skipColon hm) hv ht h⟩
    · cases hl

/-! ## The three stages -/

/-- What is done where a value is due, by its first octet. -/
theorem skipDue_eq {bs tail : Bytes} {b : UInt8} (stack : List Bracket) (h : dropBlanks bs = b :: tail) :
    skipDue stack bs = if b = 0x5B then skipOpened .list stack tail else if b = 0x7B then skipOpened .object stack tail
      else (skipScalar b tail).bind (skipEnded stack) := by
  rw [skipDue]
  split
  · next he => rw [h] at he; cases he
  next b' tail' he =>
  obtain ⟨rfl, rfl⟩ : b = b' ∧ tail = tail' := by simpa [h] using he
  cases skipScalar b tail <;> rfl

/-- What is done behind an opening bracket. -/
theorem skipOpened_eq {top : Bracket} {bs tail : Bytes} {b : UInt8} (stack : List Bracket)
    (h : dropBlanks bs = b :: tail) :
    skipOpened top stack bs = if b = top.close then skipEnded stack tail
      else (skipLabel top (b :: tail)).bind (skipDue (top :: stack)) := by
  rw [skipOpened]
  split
  · next he => rw [h] at he; cases he
  next b' tail' he =>
  obtain ⟨rfl, rfl⟩ : b = b' ∧ tail = tail' := by simpa [h] using he
  cases skipLabel top (b :: tail) <;> rfl

/-- What is done behind a value inside a bracket. -/
theorem skipEnded_eq {top : Bracket} {bs tail : Bytes} {b : UInt8} (stack : List Bracket)
    (h : dropBlanks bs = b :: tail) :
    skipEnded (top :: stack) bs = if b = 0x2C then (skipLabel top tail).bind (skipDue (top :: stack))
      else if b = top.close then skipEnded stack tail else .error (.ahead top.separatorExpected (b :: tail)) := by
  rw [skipEnded]
  split
  · next he => rw [h] at he; cases he
  next b' tail' he =>
  obtain ⟨rfl, rfl⟩ : b = b' ∧ tail = tail' := by simpa [h] using he
  cases skipLabel top tail <;> rfl

/-- A value without brackets is passed over at once. -/
theorem skipDue_scalar {stack : List Bracket} {b : UInt8} {bs tail rest : Bytes} (hb : dropBlanks bs = b :: tail)
    (hlist : b ≠ 0x5B) (hobject : b ≠ 0x7B) (h : skipScalar b tail = .ok rest) :
    skipDue stack bs = skipEnded stack rest := by
  rw [skipDue_eq stack hb, if_neg hlist, if_neg hobject, h]
  rfl

/-- Where a value is due, one is found. -/
def DueFinds (bs : Bytes) : Prop :=
  ∀ stack rest, skipDue stack bs = .ok rest → ∃ v t after, Blanks bs v ∧ Spells .loose t v after ∧
    after.length < bs.length ∧ skipEnded stack after = .ok rest

/-- A bracket just opened is closed again. -/
def OpenedFinds (bs : Bytes) : Prop :=
  ∀ top stack rest, skipOpened top stack bs = .ok rest → ∃ after, Inside top true bs after ∧
    after.length < bs.length ∧ skipEnded stack after = .ok rest

/-- An open bracket is closed behind a value inside it. -/
def EndedFinds (bs : Bytes) : Prop :=
  ∀ top stack rest, skipEnded (top :: stack) bs = .ok rest → ∃ after, Inside top false bs after ∧
    after.length < bs.length ∧ skipEnded stack after = .ok rest

theorem dueFinds {bs : Bytes} (opened : ∀ r : Bytes, r.length < bs.length → OpenedFinds r) : DueFinds bs := by
  intro stack rest h
  have hb := dropBlanks_length bs
  rw [skipDue] at h
  split at h
  · cases h
  next b tail heq =>
  rw [heq, List.length_cons] at hb
  split at h
  · next hlist =>
    obtain ⟨after, ⟨ts, hts⟩, hlen, he⟩ := opened tail (by omega) _ _ _ h
    exact ⟨_, .list ts, after, .of_dropBlanks heq, hlist ▸ .list hts, by omega, he⟩
  split at h
  · next hobject =>
    obtain ⟨after, ⟨ms, hms⟩, hlen, he⟩ := opened tail (by omega) _ _ _ h
    exact ⟨_, .object ms, after, .of_dropBlanks heq, hobject ▸ .object hms, by omega, he⟩
  split at h
  · cases h
  · next after hs =>
    obtain ⟨t, ht⟩ := spells_of_skipScalar hs
    have hlen := skipScalar_length hs
    rw [List.length_cons] at hlen
    exact ⟨_, t, after, .of_dropBlanks heq, ht, by omega, h⟩

theorem openedFinds {bs : Bytes} (due : ∀ r : Bytes, r.length ≤ bs.length → DueFinds r)
    (ended : ∀ r : Bytes, r.length < bs.length → EndedFinds r) : OpenedFinds bs := by
  intro top stack rest h
  have hb := dropBlanks_length bs
  rw [skipOpened] at h
  split at h
  · cases h
  next b tail heq =>
  rw [heq, List.length_cons] at hb
  split at h
  · next hclose =>
    subst hclose
    exact ⟨tail, .close (.of_dropBlanks heq), by omega, h⟩
  split at h
  · cases h
  · next l hl =>
    have hlen := skipLabel_length hl
    rw [List.length_cons] at hlen
    obtain ⟨v, t, e, hv, ht, he, h⟩ := due l (by omega) _ _ h
    obtain ⟨after, hin, hlen', h⟩ := ended e (by omega) _ _ _ h
    exact ⟨after, .next (c := bs) rfl (.of_dropBlanks heq) hl hv ht hin, by omega, h⟩

theorem endedFinds {bs : Bytes} (due : ∀ r : Bytes, r.length < bs.length → DueFinds r)
    (ended : ∀ r : Bytes, r.length < bs.length → EndedFinds r) : EndedFinds bs := by
  intro top stack rest h
  have hb := dropBlanks_length bs
  rw [skipEnded] at h
  split at h
  · cases h
  next b tail heq =>
  rw [heq, List.length_cons] at hb
  split at h
  · next hcomma =>
    subst hcomma
    split at h
    · cases h
    · next l hl =>
      have hlen := skipLabel_length hl
      obtain ⟨v, t, e, hv, ht, he, h⟩ := due l (by omega) _ _ h
      obtain ⟨after, hin, hlen', h⟩ := ended e (by omega) _ _ _ h
      exact ⟨after, .next (c := tail) (.of_dropBlanks heq) (.refl tail) hl hv ht hin, by omega, h⟩
  split at h
  · next hclose =>
    subst hclose
    exact ⟨tail, .close (.of_dropBlanks heq), by omega, h⟩
  · cases h

/-- The stages together, by induction on what is left. A bracket just opened may be followed by a value
at once, so that at each length the value comes first. -/
theorem stagesFind (n : Nat) : ∀ bs : Bytes, bs.length ≤ n → DueFinds bs ∧ OpenedFinds bs ∧ EndedFinds bs := by
  induction n with
  | zero =>
    intro bs hn
    have hnone (r : Bytes) (hr : r.length < bs.length) : False := by omega
    have hdue : ∀ r : Bytes, r.length ≤ bs.length → DueFinds r := fun r hr =>
      dueFinds fun r' hr' => (hnone r' (by omega)).elim
    exact ⟨hdue bs (by omega), openedFinds hdue fun r hr => (hnone r hr).elim,
      endedFinds (fun r hr => (hnone r hr).elim) fun r hr => (hnone r hr).elim⟩
  | succ n ih =>
    intro bs hn
    have hdue : ∀ r : Bytes, r.length ≤ bs.length → DueFinds r := fun r hr =>
      dueFinds fun r' hr' => (ih r' (by omega)).2.1
    have hended : ∀ r : Bytes, r.length < bs.length → EndedFinds r := fun r hr => (ih r (by omega)).2.2
    exact ⟨hdue bs (by omega), openedFinds hdue hended, endedFinds (fun r hr => hdue r (by omega)) hended⟩

/-- What is skipped as a value spells one. -/
theorem spells_of_skipValue {bs rest : Bytes} (h : skipValue bs = .ok rest) :
    ∃ v t, Blanks bs v ∧ Spells .loose t v rest := by
  obtain ⟨v, t, after, hv, ht, -, he⟩ := (stagesFind bs.length bs (by omega)).1 [] rest h
  rw [skipEnded] at he
  simp only [Except.ok.injEq] at he
  exact ⟨v, t, hv, he ▸ ht⟩

end QueryAudit.Json
