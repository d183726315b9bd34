import QueryAudit.Json.Value
import QueryAudit.Proofs.Json.Unambiguous
/-!
# What is written is JSON

`isText_render`: the text of a value spells the tree of the value without blanks, whatever texts and
numbers are in it. `eq_tree_of_isText`: it spells no other tree. `le_of_mem_render`: it holds no control
character.
-/

namespace QueryAudit.Json

open Numeral

/-! ## Integers -/

theorem IsWhole.append {ds : Bytes} (h : IsWhole ds) (h0 : digitsValue ds ≠ 0) {d : UInt8} (hd : isDigit d = true) :
    IsWhole (ds ++ [d]) := by
  obtain ⟨⟨hne, hall⟩, hlead⟩ := h
  refine ⟨⟨by simp, fun b hb => ?_⟩, fun hz => ?_⟩
  · rcases List.mem_append.1 hb with hb | hb
    · exact hall b hb
    · exact List.mem_singleton.1 hb ▸ hd
  · obtain ⟨b, tail, rfl⟩ := List.exists_cons_of_ne_nil hne
    have hzero : b :: tail = [0x30] := hlead hz
    rw [hzero] at h0
    exact absurd rfl h0

/-- The digit of a number below ten. -/
theorem decimal_digit : ∀ n : Fin 10, Utf8.encode (decimal n) = [UInt8.ofNat (0x30 + n)] ∧
    isDigit (UInt8.ofNat (0x30 + n)) = true ∧ (UInt8.ofNat (0x30 + n)).toNat - 0x30 = n.val := by decide

theorem digitsValue_singleton (b : UInt8) : digitsValue [b] = b.toNat - 0x30 := by simp [digitsValue, ofDigits]

/-- A number in decimal is written without leading zeros, and the digits write the number. -/
theorem isWhole_decimal (n : Nat) :
    IsWhole (Utf8.encode (decimal n)) ∧ digitsValue (Utf8.encode (decimal n)) = n := by
  induction n using Nat.strongRecOn with
  | ind n ih =>
    by_cases hn : n < 10
    · obtain ⟨he, hd, hv⟩ := decimal_digit ⟨n, hn⟩
      simp only at he hd hv
      rw [he]
      exact ⟨⟨isDigits_cons hd (by simp), fun h => by rw [Option.some.inj h]⟩,
        (digitsValue_singleton _).trans hv⟩
    · -- All digits but the last write the quotient, the last writes the remainder.
      obtain ⟨hwhole, hvalue⟩ := ih (n / 10) (by omega)
      obtain ⟨he, hd, hv⟩ := decimal_digit ⟨n % 10, by omega⟩
      simp only at he hd hv
      have hlast : decimal n = decimal (n / 10) ++ decimal (n % 10) := by
        unfold decimal
        rw [Nat.toDigits_of_base_le (by decide) (by omega), Nat.toDigits_of_lt_base (n := n % 10) (by omega)]
      rw [hlast, Utf8.encode_append, he]
      refine ⟨hwhole.append (by omega) hd, ?_⟩
      rw [digitsValue_append, hvalue, List.foldl_cons, List.foldl_nil, hv]
      omega

/-- An integer is written as exactly that integer. -/
theorem isInteger_signedDecimal (n : Int) : IsInteger (Utf8.encode (signedDecimal n)) n := by
  obtain ⟨hwhole, hvalue⟩ := isWhole_decimal n.natAbs
  unfold signedDecimal
  split
  · have h := IsInteger.negative hwhole (by omega)
    rwa [hvalue, show (-(n.natAbs : Int)) = n by omega] at h
  · have h := IsInteger.natural hwhole
    rwa [hvalue, show (n.natAbs : Int) = n by omega] at h

/-! ## Texts -/

namespace Value

/-- The four digits of a control character. -/
theorem hex4?_hexPadded : ∀ n : Fin 32, ∃ x y z w, Utf8.encode (hexPadded 4 n) = [x, y, z, w] ∧
    hex4? x y z w = some n.val := by
  intro n
  refine ⟨0x30, 0x30, if n < 16 then 0x30 else 0x31, UInt8.ofNat (digitChar (n.val % 16)).toNat, ?_⟩
  revert n
  decide

/-- A character is escaped into something that denotes it. -/
theorem decodes_escapeChar {raw : Bytes} {cs : List Char} (c : Char) (h : Decodes raw cs) :
    Decodes (Utf8.encode (escapeChar c) ++ raw) (c :: cs) := by
  unfold escapeChar
  split
  · next hc =>
    subst hc
    exact .short (b := 0x22) rfl h
  split
  · next hc =>
    subst hc
    exact .short (b := 0x5C) rfl h
  split
  · next hc =>
    subst hc
    exact .short (b := 0x62) rfl h
  split
  · next hc =>
    subst hc
    exact .short (b := 0x66) rfl h
  split
  · next hc =>
    subst hc
    exact .short (b := 0x6E) rfl h
  split
  · next hc =>
    subst hc
    exact .short (b := 0x72) rfl h
  split
  · next hc =>
    subst hc
    exact .short (b := 0x74) rfl h
  split
  · next hc =>
    obtain ⟨x, y, z, w, he, hn⟩ := hex4?_hexPadded ⟨c.toNat, hc⟩
    simp only at he hn
    have hd : Decodes (0x5C :: 0x75 :: x :: y :: z :: w :: raw) (Char.ofNat c.toNat :: cs) :=
      .unit hn (by unfold IsHighSurrogate; omega) (by unfold IsLowSurrogate; omega) h
    rw [Char.ofNat_toNat] at hd
    rw [Utf8.encode_append, he]
    exact hd
  · next hquote hslash _ _ _ _ _ hc =>
    rw [Utf8.encode_cons, Utf8.encode_nil, List.append_nil]
    exact .plain (by omega) hquote hslash h

theorem decodes_escape (s : List Char) : Decodes (Utf8.encode (s.flatMap escapeChar)) s := by
  induction s with
  | nil => exact .nil
  | cons c s ih =>
    rw [List.flatMap_cons, Utf8.encode_append]
    exact decodes_escapeChar c ih

/-- A text stays between its own quotation marks. -/
theorem quoted_renderText (s : List Char) (rest : Bytes) :
    Quoted s (Utf8.encode (renderText s) ++ rest) rest := by
  refine ⟨Utf8.encode (s.flatMap escapeChar), decodes_escape s, ?_⟩
  have hmark : Utf8.encode ['"'] = [0x22] := rfl
  rw [renderText, List.cons_append, Utf8.encode_cons, Utf8.encode_append, hmark]
  simp only [List.append_assoc, List.cons_append, List.nil_append]
  rfl

/-! ## Values -/

mutual

/-- The tree of a value. -/
def tree : Value → Tree (List Char)
  | text s => .text s
  | integer n => .number (Utf8.encode (signedDecimal n))
  | object members => .object (trees members)

/-- The trees of the members of an object. -/
def trees : List (List Char × Value) → List (List Char × Tree (List Char))
  | [] => []
  | (key, value) :: members => (key, tree value) :: trees members

end

/-- Members that are not first follow a comma. -/
theorem members_comma {ms : List (List Char × Tree (List Char))} {bs rest : Bytes} (hms : ms ≠ [])
    (h : Members Eq Quoted (Spells .compact) true ms bs rest) :
    Members Eq Quoted (Spells .compact) false ms (0x2C :: bs) rest := by
  cases h with
  | close _ => exact absurd rfl hms
  | next hc hcl hkey hmn hnv ht hmore =>
    obtain rfl := hc
    exact .next rfl hcl hkey hmn hnv ht hmore

mutual

/-- What is written for a value spells its tree. -/
theorem spells_render (v : Value) (rest : Bytes) :
    Spells .compact v.tree (Utf8.encode v.render ++ rest) rest := by
  match v with
  | text s => exact .text (quoted_renderText s rest)
  | integer n => exact .number (isInteger_signedDecimal n).isNumber
  | object members =>
    have hopen : Utf8.encodeChar '\x7b' = [0x7B] := rfl
    have hclose : Utf8.encodeChar '\x7d' = [0x7D] := rfl
    rw [render, List.cons_append, Utf8.encode_cons, Utf8.encode_append, Utf8.encode_cons, Utf8.encode_nil, hopen,
      hclose]
    simp only [List.append_assoc, List.cons_append, List.nil_append]
    exact .object (members_renderMembers members rest)

theorem members_renderMembers (members : List (List Char × Value)) (rest : Bytes) :
    Members Eq Quoted (Spells .compact) true (trees members) (Utf8.encode (renderMembers members) ++ 0x7D :: rest)
      rest := by
  have hcolon : Utf8.encodeChar ':' = [0x3A] := rfl
  match members with
  | [] => exact .close rfl
  | [(key, value)] =>
    rw [renderMembers, Utf8.encode_append, Utf8.encode_cons, hcolon]
    simp only [List.append_assoc, List.cons_append, List.nil_append]
    exact .next rfl rfl (quoted_renderText key _) rfl rfl (spells_render value _) (.close rfl)
  | (key, value) :: next :: members =>
    have hcomma : Utf8.encodeChar ',' = [0x2C] := rfl
    have hmore := members_comma (by simp [trees]) (members_renderMembers (next :: members) rest)
    rw [renderMembers, Utf8.encode_append, Utf8.encode_append, Utf8.encode_cons, Utf8.encode_cons, hcolon, hcomma]
    simp only [List.append_assoc, List.cons_append, List.nil_append]
    exact .next rfl rfl (quoted_renderText key _) rfl rfl (spells_render value _) hmore

end

/-- What is written for a value is JSON without blanks. -/
theorem isText_render (v : Value) : IsText .compact v.tree (Utf8.encode v.render) := by
  have h := spells_render v []
  rw [List.append_nil] at h
  exact ⟨_, [], rfl, h, rfl⟩

/-- What is written for a value is JSON for no other tree, blanks or not. -/
theorem eq_tree_of_isText {v : Value} {t : Tree (List Char)} (h : IsText .standard t (Utf8.encode v.render)) :
    t = v.tree :=
  h.unique isGap_blanks sharp_quoted (isText_render v).standard

/-! ## Control characters -/

theorem le_of_mem_signedDecimal {n : Int} {c : Char} (h : c ∈ signedDecimal n) : 0x20 ≤ c.toNat := by
  have digit {m : Nat} (hc : c ∈ decimal m) : 0x20 ≤ c.toNat := by
    have hd : c.isDigit = true := Nat.isDigit_of_mem_toDigits (by decide) (by decide) hc
    simp only [Char.isDigit, Bool.and_eq_true, decide_eq_true_eq, UInt32.le_iff_toNat_le] at hd
    exact Nat.le_trans (by decide) hd.1
  unfold signedDecimal at h
  split at h
  · rcases List.mem_cons.1 h with rfl | h
    · decide
    · exact digit h
  · exact digit h

theorem le_of_mem_hexPadded (n : Fin 32) {c : Char} (h : c ∈ hexPadded 4 n) : 0x20 ≤ c.toNat := by
  have hall : ∀ n : Fin 32, (hexPadded 4 n).all (fun c => decide (0x20 ≤ c.toNat)) = true := by decide
  simpa using List.all_eq_true.1 (hall n) c h

/-- No character is left a control character. -/
theorem le_of_mem_escapeChar {c d : Char} (h : d ∈ escapeChar c) : 0x20 ≤ d.toNat := by
  have short {e : Char} (he : 0x20 ≤ e.toNat) (h : d ∈ ['\\', e]) : 0x20 ≤ d.toNat := by
    rcases List.mem_cons.1 h with rfl | h
    · decide
    · exact List.mem_singleton.1 h ▸ he
  unfold escapeChar at h
  split at h
  · exact short (by decide) h
  split at h
  · exact short (by decide) h
  split at h
  · exact short (by decide) h
  split at h
  · exact short (by decide) h
  split at h
  · exact short (by decide) h
  split at h
  · exact short (by decide) h
  split at h
  · exact short (by decide) h
  split at h
  · next hc =>
    rcases List.mem_append.1 h with h | h
    · exact short (by decide) h
    · exact le_of_mem_hexPadded ⟨c.toNat, hc⟩ h
  · next hc =>
    rw [List.mem_singleton.1 h]
    omega

theorem le_of_mem_renderText {s : List Char} {c : Char} (h : c ∈ renderText s) : 0x20 ≤ c.toNat := by
  simp only [renderText, List.cons_append, List.mem_cons, List.mem_append, List.mem_flatMap, List.not_mem_nil,
    or_false] at h
  rcases h with rfl | ⟨d, -, hd⟩ | rfl
  · decide
  · exact le_of_mem_escapeChar hd
  · decide

mutual

/-- What is written for a value has no control characters. -/
theorem le_of_mem_render (v : Value) {c : Char} (h : c ∈ v.render) : 0x20 ≤ c.toNat := by
  match v with
  | text s => exact le_of_mem_renderText h
  | integer n => exact le_of_mem_signedDecimal h
  | object members =>
    simp only [render, List.cons_append, List.mem_cons, List.mem_append, List.not_mem_nil, or_false] at h
    rcases h with rfl | h | rfl
    · decide
    · exact le_of_mem_renderMembers members h
    · decide

theorem le_of_mem_renderMembers (members : List (List Char × Value)) {c : Char} (h : c ∈ renderMembers members) :
    0x20 ≤ c.toNat := by
  match members with
  | [] => simp [renderMembers] at h
  | [(key, value)] =>
    simp only [renderMembers, List.mem_append, List.mem_cons] at h
    rcases h with h | rfl | h
    · exact le_of_mem_renderText h
    · decide
    · exact le_of_mem_render value h
  | (key, value) :: next :: members =>
    simp only [renderMembers, List.mem_append, List.mem_cons] at h
    rcases h with (h | rfl | h) | rfl | h
    · exact le_of_mem_renderText h
    · decide
    · exact le_of_mem_render value h
    · decide
    · exact le_of_mem_renderMembers (next :: members) h

end

end Value

end QueryAudit.Json
