import Mathlib.Algebra.Group.Nat.Defs
import QueryAudit.Numeral
import QueryAudit.Proofs.Outcome
/-!
# Numerals that are read back

`ofChars?_toDigits`: a number that is written in a base up to sixteen is read as that number.
-/

namespace QueryAudit.Numeral

section base

variable {base : Nat} (hone : 1 < base) (hbase : base ≤ 16)

theorem hexDigit?_digitChar : ∀ n < 16, hexDigit? (Nat.digitChar n) = some n := by decide

include hbase in
theorem digit?_digitChar {n : Nat} (h : n < base) : digit? base (Nat.digitChar n) = some n := by
  rw [digit?, hexDigit?_digitChar n (by omega), Option.filter_some, if_pos (by simpa using h)]

include hone hbase

/-- The digits of a number are those that write it. -/
theorem mapM_toDigits (n : Nat) : ∃ ds, (Nat.toDigits base n).mapM (digit? base) = some ds ∧ ofDigits base ds = n := by
  have hdigit {n : Nat} (h : n < base) : (Nat.toDigits base n).mapM (digit? base) = some [n] := by
    rw [Nat.toDigits_of_lt_base h, List.mapM_cons, digit?_digitChar hbase h]
    rfl
  induction n using Nat.strongRecOn with
  | ind n ih =>
    by_cases hn : n < base
    · exact ⟨[n], hdigit hn, by simp [ofDigits]⟩
    · -- All digits but the last write the quotient, the last writes the remainder.
      have hlt : n % base < base := Nat.mod_lt _ (by omega)
      obtain ⟨ds, hds, hvalue⟩ := ih (n / base) (Nat.div_lt_self (by omega) hone)
      have hlast : Nat.toDigits base n = Nat.toDigits base (n / base) ++ Nat.toDigits base (n % base) := by
        rw [Nat.toDigits_of_base_le hone (by omega), Nat.toDigits_of_lt_base hlt]
      refine ⟨ds ++ [n % base], ?_, ?_⟩
      · rw [hlast, List.mapM_append, hds, hdigit hlt]
        rfl
      · rw [ofDigits, List.foldl_append, ← ofDigits, hvalue, List.foldl_cons, List.foldl_nil, Nat.div_add_mod']

theorem ofChars?_toDigits (n : Nat) : ofChars? base (Nat.toDigits base n) = some n := by
  obtain ⟨ds, hds, hvalue⟩ := mapM_toDigits hone hbase n
  have hne : (Nat.toDigits base n).isEmpty = false := List.isEmpty_eq_false_iff.2 Nat.toDigits_ne_nil
  simp [ofChars?, hne, hds, hvalue]

theorem isSome_hexDigit?_of_mem_toDigits {n : Nat} {c : Char} (h : c ∈ Nat.toDigits base n) :
    (hexDigit? c).isSome = true := by
  obtain ⟨ds, hds, -⟩ := mapM_toDigits hone hbase n
  have hc : digit? base c ∈ ds.map some := mapM_eq_some_iff.1 hds ▸ List.mem_map_of_mem h
  obtain ⟨d, -, hd⟩ := List.mem_map.1 hc
  rw [(Option.filter_eq_some_iff.1 hd.symm).1, Option.isSome_some]

end base

/-- A number has no more than so many digits. -/
theorem foldl_digits_lt {base : Nat} {ds : List Nat} (hds : ∀ d ∈ ds, d < base) (acc : Nat) :
    ds.foldl (fun n d => n * base + d) acc < (acc + 1) * base ^ ds.length := by
  induction ds generalizing acc with
  | nil => simp
  | cons d ds ih =>
    obtain ⟨hd, hds⟩ := List.forall_mem_cons.1 hds
    have hacc : acc * base + d + 1 ≤ (acc + 1) * base := by
      rw [Nat.add_mul]
      omega
    calc
      (d :: ds).foldl (fun n d => n * base + d) acc < (acc * base + d + 1) * base ^ ds.length := ih hds _
      _ ≤ (acc + 1) * base * base ^ ds.length := Nat.mul_le_mul_right _ hacc
      _ = (acc + 1) * base ^ (d :: ds).length := by
        rw [List.length_cons, Nat.pow_succ', Nat.mul_assoc]

theorem lt_of_ofChars? {base n : Nat} {cs : List Char} (h : ofChars? base cs = some n) : n < base ^ cs.length := by
  unfold ofChars? at h
  split at h
  · cases h
  obtain ⟨ds, hds, rfl⟩ := Option.map_eq_some_iff.1 h
  rw [mapM_eq_some_iff] at hds
  have hlength : cs.length = ds.length := by simpa using congrArg List.length hds
  have hdigits : ∀ d ∈ ds, d < base := by
    intro d hd
    obtain ⟨c, -, hc⟩ := List.mem_map.1 (hds ▸ List.mem_map_of_mem (f := some) hd)
    simpa using (Option.filter_eq_some_iff.1 hc).2
  rw [ofDigits, hlength]
  simpa using foldl_digits_lt hdigits 0

theorem ofChars?_decimal (n : Nat) : ofChars? 10 (decimal n) = some n := ofChars?_toDigits (by decide) (by decide) n

/-- No sign is among the digits. -/
theorem isDigit_of_mem_decimal {n : Nat} {c : Char} (h : c ∈ decimal n) : c.isDigit = true :=
  Nat.isDigit_of_mem_toDigits (by decide) (by decide) h

end QueryAudit.Numeral
