import QueryAudit.Proofs.Url.Escapes
import QueryAudit.Proofs.Utf8
/-!
# What percent encoding keeps

`decodeText?_encode`: a text without percent signs is read back from what it is encoded as. `clean_encode` and
`Clean.encode`: what is encoded holds nothing that its component cannot hold, and encoding leaves it as it is.
-/

namespace QueryAudit.Url.Percent

/-! ## Decoding -/

theorem hexDigit?_digit : ∀ n < 16, Numeral.hexDigit? (digit n) = some n := by decide

theorem decode_escape (b : UInt8) (s : List Char) : decode (escape b ++ s) = b :: decode s := by
  have hb := b.toNat_lt
  have hvalue : UInt8.ofNat (b.toNat / 16 * 16 + b.toNat % 16) = b := by
    rw [Nat.div_add_mod']
    exact UInt8.ofNat_toNat
  rw [escape, List.cons_append, List.cons_append, List.cons_append, List.nil_append, decode,
    hexDigit?_digit _ (by omega), hexDigit?_digit _ (by omega)]
  dsimp only
  rw [hvalue]

theorem decode_cons {c : Char} (h : c ≠ '%') (s : List Char) : decode (c :: s) = Utf8.encodeChar c ++ decode s := by
  rw [decode]
  rintro a b rest rfl
  exact absurd rfl h

theorem decode_flatMap_escape (bs : Bytes) (s : List Char) : decode (bs.flatMap escape ++ s) = bs ++ decode s := by
  induction bs with
  | nil => rfl
  | cons b bs ih => rw [List.flatMap_cons, List.append_assoc, decode_escape, ih, List.cons_append]

theorem decode_encode {s : List Char} (h : '%' ∉ s) (set : Char → Bool) : decode (encode set s) = Utf8.encode s := by
  induction s with
  | nil => rfl
  | cons c s ih =>
    rw [List.mem_cons, not_or] at h
    rw [encode, List.flatMap_cons, ← encode, Utf8.encode_cons, encodeChar]
    split
    · rw [decode_flatMap_escape, ih h.2]
    · rw [List.singleton_append, decode_cons (Ne.symm h.1), ih h.2]

theorem decodeText?_encode {s : List Char} (h : '%' ∉ s) (set : Char → Bool) : decodeText? (encode set s) = some s := by
  rw [decodeText?, decode_encode h, Utf8.decode?_encode]

/-! ## Encoding twice -/

/-- A text of nothing but characters that a component can hold. -/
def Clean (set : Char → Bool) (s : List Char) : Prop := ∀ c ∈ s, c.toNat < 0x80 ∧ set c = false

theorem clean_nil (set : Char → Bool) : Clean set [] := nofun

theorem Clean.encode {set : Char → Bool} {s : List Char} (h : Clean set s) : encode set s = s := by
  induction s with
  | nil => rfl
  | cons c s ih =>
    obtain ⟨hc, hs⟩ := List.forall_mem_cons.1 h
    rw [Percent.encode, List.flatMap_cons, encodeChar_of_spared hc.2 hc.1, ← Percent.encode, ih hs,
      List.singleton_append]

/-- What is in ASCII and has no percent signs stands for itself. -/
theorem Clean.decodeText? {set : Char → Bool} {s : List Char} (h : Clean set s) (hpercent : '%' ∉ s) :
    decodeText? s = some s := by
  have hdecode := decodeText?_encode hpercent set
  rwa [h.encode] at hdecode

theorem clean_encode {set : Char → Bool} (hset : Spares set) (s : List Char) : Clean set (encode set s) := by
  intro c hc
  rcases of_mem_encode hc with rfl | hdigit | ⟨-, hspared, hlt⟩
  · exact ⟨by decide, hset.percent⟩
  · exact ⟨hdigit.toNat_lt, hset.digit c hdigit⟩
  · exact ⟨hlt, hspared⟩

end QueryAudit.Url.Percent
