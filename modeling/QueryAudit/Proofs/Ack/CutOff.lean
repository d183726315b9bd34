import Mathlib.Data.List.DropRight
import QueryAudit.Proofs.Ack.Complete
import QueryAudit.Proofs.Json.Extent
/-!
# Answers that are cut off

`parse_cutOff`: of an answer that is read, blanks at its end apart, no part up to some octet is read, and nothing
but blanks may be put behind it. So a connection that breaks off never leaves an acknowledgment behind.
-/

namespace QueryAudit.Ack

open Json

/-- A body without the blanks at its end. -/
def core (body : Bytes) : Bytes := body.rdropWhile isBlank

/-- The body is no acknowledgment, and the event fails for that. -/
def IsUnreadable (body : Bytes) : Prop :=
  ∃ fault, parse body = .error (.unreadableAck fault) ∧ interpret body = .error (.unreadableAck fault)

theorem isUnreadable_of_not_parse {body : Bytes} (h : ∀ a, parse body ≠ .ok a) : IsUnreadable body := by
  cases hp : parse body with
  | ok a => exact absurd hp (h a)
  | error e =>
    obtain ⟨fault, rfl⟩ := unreadable_of_parse hp
    refine ⟨fault, hp, ?_⟩
    rw [interpret, hp]
    rfl

/-- An answer that is read is an object or an array with nothing but blanks behind it. -/
theorem begins_of_parse {body : Bytes} {a : Ack} (h : parse body = .ok a) :
    ∃ rest, Begins body rest ∧ ∀ b ∈ rest, isBlank b = true := by
  have hblank {rest : Bytes} (hr : Blanks rest []) : ∀ b ∈ rest, isBlank b = true := by
    obtain ⟨g, hg, rfl⟩ := hr
    rwa [List.append_nil]
  cases written_of_parse h with
  | object hms =>
    obtain ⟨bs, rest, hbs, hms, hrest⟩ := hms
    exact ⟨rest, .object hbs hms, hblank hrest⟩
  | array hts =>
    obtain ⟨bs, rest, hbs, hts, hrest⟩ := hts
    exact ⟨rest, .array hbs hts, hblank hrest⟩

theorem core_append {front rest : Bytes} {close : UInt8} (hclose : isBlank close = false)
    (hrest : ∀ b ∈ rest, isBlank b = true) : core (front ++ close :: rest) = front ++ [close] := by
  have hdrop : (rest.reverse ++ close :: front.reverse).dropWhile isBlank = close :: front.reverse := by
    rw [List.dropWhile_append_of_pos fun b hb => hrest b (List.mem_reverse.1 hb),
      List.dropWhile_cons_of_neg (by simp [hclose])]
  rw [core, List.rdropWhile, List.reverse_append, List.reverse_cons, List.append_assoc, List.singleton_append, hdrop,
    List.reverse_cons, List.reverse_reverse]

/-- An answer that is read ends with its closing bracket: what stands before the blanks at its end begins alike
with anything else behind it. -/
theorem begins_core {body : Bytes} {a : Ack} (h : parse body = .ok a) :
    core body ≠ [] ∧ ∀ s, Begins (core body ++ s) s := by
  obtain ⟨rest, hbegins, hrest⟩ := begins_of_parse h
  obtain ⟨front, close, hclose, rfl, hfront⟩ := hbegins.exists_front
  rw [core_append hclose hrest]
  refine ⟨by simp, fun s => ?_⟩
  rw [List.append_assoc, List.singleton_append]
  exact hfront s

/-- An answer that is read is not empty, blanks at its end apart; and then no proper part of it from its first octet
on is an acknowledgment, nor is the answer with anything behind it that is not all blank. -/
theorem parse_cutOff {body : Bytes} {a : Ack} (h : parse body = .ok a) :
    core body ≠ [] ∧ (∀ part, part <+: core body → part ≠ core body → IsUnreadable part) ∧
      ∀ more, (∃ b ∈ more, isBlank b = false) → IsUnreadable (core body ++ more) := by
  obtain ⟨hne, hcore⟩ := begins_core h
  refine ⟨hne, ?_, ?_⟩
  · rintro part ⟨missing, hmissing⟩ hpart
    refine isUnreadable_of_not_parse fun a' h' => hpart ?_
    -- The part would end where it ends as a beginning of the whole, with nothing missing.
    obtain ⟨rest, hbegins, -⟩ := begins_of_parse h'
    obtain ⟨front, close, -, rfl, hfront⟩ := hbegins.exists_front
    have hwhole : Begins (core body) (rest ++ missing) := by
      rw [← hmissing, List.append_assoc, List.cons_append]
      exact hfront (rest ++ missing)
    have hend : Begins (core body) [] := by simpa using hcore []
    obtain ⟨-, rfl⟩ := List.append_eq_nil_iff.1 (hwhole.unique hend)
    rw [← hmissing, List.append_nil]
  · rintro more ⟨b, hb, hblank⟩
    refine isUnreadable_of_not_parse fun a' h' => ?_
    obtain ⟨rest, hbegins, hrest⟩ := begins_of_parse h'
    obtain rfl := hbegins.unique (hcore more)
    rw [hrest b hb] at hblank
    cases hblank

/-- An answer of code zero with a list that nobody asks for. -/
def answer : Bytes := [0x7B, 0x22, 0x78, 0x22, 0x3A, 0x5B, 0x31, 0x5D, 0x7D]

theorem parse_answer : parse (answer ++ [0x0A]) = .ok {} := by
  have hone : IsNumber [0x31] :=
    ⟨[], [0x31], [], [], .inl rfl, isWhole_cons (by decide) (by simp) (by decide), .inl rfl, .inl rfl, rfl⟩
  have hnumber : Spells .loose (.number [0x31]) [0x31, 0x5D, 0x7D, 0x0A] [0x5D, 0x7D, 0x0A] := .number hone
  have hlist : Spells .loose (.list [.number [0x31]]) [0x5B, 0x31, 0x5D, 0x7D, 0x0A] [0x7D, 0x0A] :=
    .list (.next rfl (.refl _) hnumber (.close (.refl _)))
  have hobject : IsObject [(['x'], .list [.number [0x31]])] (answer ++ [0x0A]) :=
    ⟨_, [0x0A], .refl _, .next rfl (.refl _) ⟨_, decodes_x, rfl⟩ (.refl _) (.refl _) hlist (.close (.refl _)),
      ⟨[0x0A], List.forall_mem_singleton.2 rfl, rfl⟩⟩
  exact parse_eq_ok_iff.2 (.object hobject .absent .absent)

/-- Cut inside the list it is no answer, and neither is it with a second one behind it. -/
theorem parse_cutOff_answer :
    parse (answer ++ [0x0A]) = .ok {} ∧ core (answer ++ [0x0A]) = answer ∧ IsUnreadable (answer.take 7) ∧
      IsUnreadable (answer ++ 0x0A :: answer) := by
  have hcore : core (answer ++ [0x0A]) = answer := by decide
  obtain ⟨-, hpart, hmore⟩ := parse_cutOff parse_answer
  rw [hcore] at hpart hmore
  exact ⟨parse_answer, hcore, hpart _ (List.take_prefix _ _) (by decide),
    hmore (0x0A :: answer) ⟨0x7B, by decide, rfl⟩⟩

end QueryAudit.Ack
