import QueryAudit.Proofs.CommandLine.Word
/-!
# One switch more

`read_insert`: where arguments ask for something with a switch among them, they ask for the same without it, but for
the switch. A level that has had the switch and one that has not go on alike; only a conflict can come of it.
-/

namespace QueryAudit.CommandLine

/-- What is asked for, with a switch on. -/
def Invocation.turnOn (i : Invocation) : Switch → Invocation
  | .verbose => { i with verbose := true }
  | .quiet => { i with quiet := true }
  | _ => i

namespace Level

/-- Two levels that differ in one switch, which only the second has been given. -/
structure Adds (s : Switch) (l m : Level) : Prop where
  values : m.values = l.values
  pending : m.pending = l.pending
  ended : m.ended = l.ended
  has : ∀ t, m.has t = (t == s || l.has t)

namespace Adds

variable {s : Switch} {l m m' : Level} {place : Place}

theorem get? (h : Adds s l m) (o : Valued) : m.get? o = l.get? o := by
  rw [Level.get?, h.values, Level.get?]

/-- What has not been given with the switch has not been given without it. -/
theorem has_of_has (h : Adds s l m) {t : Switch} (ht : l.has t = true) : m.has t = true := by
  rw [h.has, ht, Bool.or_true]

theorem settle (h : Adds s l m) (hm : m.settle = .ok m') : m = m' ∧ l.settle = .ok l := by
  obtain ⟨hpending, rfl⟩ := settle_eq_ok_iff.1 hm
  exact ⟨rfl, settle_eq_ok_iff.2 ⟨h.pending ▸ hpending, rfl⟩⟩

theorem put (h : Adds s l m) {o : Valued} {value : String} (hm : m.put o value = .ok m') :
    ∃ l', l.put o value = .ok l' ∧ Adds s l' m' := by
  unfold Level.put at hm ⊢
  rw [h.get?] at hm
  split at hm
  · cases hm
  next hnew =>
  rw [if_neg hnew]
  split at hm
  · next haccepts =>
    cases hm
    rw [if_pos haccepts]
    exact ⟨_, rfl, by simp only [h.values], rfl, h.ended, h.has⟩
  · cases hm

theorem turnOn (h : Adds s l m) {t : Switch} (hm : m.turnOn place t = .ok m') :
    ∃ l', l.turnOn place t = .ok l' ∧ Adds s l' m' := by
  obtain ⟨n, hn, hrest⟩ := bind_eq_ok_iff.1 hm
  obtain ⟨rfl, hl⟩ := h.settle hn
  have hon {t : Switch} (hm : (if m.has t = true then .error (.misuse .conflict) else
      .ok { m with switches := t :: m.switches } : Except Refusal Level) = .ok m') :
      ∃ l', (if l.has t = true then .error (.misuse .conflict) else
        .ok { l with switches := t :: l.switches } : Except Refusal Level) = .ok l' ∧ Adds s l' m' := by
    split at hm
    · cases hm
    · next hnew =>
      cases hm
      refine ⟨_, if_neg fun ht => hnew (h.has_of_has ht), h.values, h.pending, h.ended, fun u => ?_⟩
      have hcons (k : Level) : ({ k with switches := t :: k.switches } : Level).has u = (u == t || k.has u) :=
        List.contains_cons
      rw [hcons, hcons, h.has, Bool.or_left_comm]
  simp only [Level.turnOn, hl, bind, Except.bind]
  cases t with
  | help => cases hrest
  | version => cases hrest
  | verbose => exact hon hrest
  | quiet => exact hon hrest

theorem long (h : Adds s l m) {cs : List Char} (hm : m.long place cs = .ok m') :
    ∃ l', l.long place cs = .ok l' ∧ Adds s l' m' := by
  simp only [Level.long] at hm ⊢
  split at hm
  · obtain ⟨n, hn, hput⟩ := bind_eq_ok_iff.1 hm
    obtain ⟨rfl, hl⟩ := h.settle hn
    simp only [hl, bind, Except.bind]
    exact h.put hput
  · obtain ⟨n, hn, hpending⟩ := bind_eq_ok_iff.1 hm
    obtain ⟨rfl, hl⟩ := h.settle hn
    cases hpending
    simp only [hl, bind, Except.bind]
    exact ⟨_, rfl, h.values, rfl, h.ended, h.has⟩
  · cases hm
  · exact h.turnOn hm
  · cases hm

theorem short (h : Adds s l m) {cs : List Char} (hm : m.short place cs = .ok m') :
    ∃ l', l.short place cs = .ok l' ∧ Adds s l' m' := by
  induction cs generalizing l m with
  | nil =>
    cases hm
    exact ⟨l, rfl, h⟩
  | cons c cs ih =>
    simp only [Level.short] at hm ⊢
    split at hm
    · cases hm
    split at hm
    · cases hm
    · next n hn =>
      obtain ⟨k, hk, hkn⟩ := h.turnOn hn
      simp only [hk]
      exact ih hkn hm

theorem plain (h : Adds s l m) {arg : String} (hm : m.plain place arg = .ok m') :
    ∃ l', l.plain place arg = .ok l' ∧ Adds s l' m' := by
  unfold Level.plain at hm ⊢
  rw [h.pending] at hm
  split at hm
  · exact h.put hm
  · cases hm

theorem argument (h : Adds s l m) {arg : String} (hm : m.argument place arg = .ok m') :
    ∃ l', l.argument place arg = .ok l' ∧ Adds s l' m' := by
  unfold Level.argument at hm ⊢
  rw [h.ended] at hm
  split at hm
  · cases hm
  next hopen =>
  rw [if_neg hopen]
  split at hm
  · cases hm
    exact ⟨_, rfl, h.values, h.pending, rfl, h.has⟩
  · exact h.long hm
  · exact h.plain hm
  · exact h.short hm
  · exact h.plain hm

theorem finish (h : Adds s l m) (hm : m.finish = .ok m') : m = m' ∧ l.finish = .ok l := by
  obtain ⟨hnot, rfl⟩ := finish_eq_ok_iff.1 hm
  exact ⟨rfl, finish_eq_ok_iff.2 ⟨fun hl => hnot ⟨h.has_of_has hl.1, h.has_of_has hl.2⟩, rfl⟩⟩

end Adds

/-- A switch that is accepted is turned on, and nothing else happens. -/
theorem adds_of_switch {l m : Level} {place : Place} {s : Switch} (hs : s = .verbose ∨ s = .quiet) (form : Form)
    (h : l.argument place (Word.switch s form).text = .ok m) : Adds s l m := by
  have hended : l.ended = false := by
    cases he : l.ended with
    | true =>
      rw [argument_of_ended he] at h
      cases h
    | false => rfl
  rw [argument_switch hended hs] at h
  obtain ⟨n, hn, hon⟩ := bind_eq_ok_iff.1 h
  obtain ⟨-, rfl⟩ := settle_eq_ok_iff.1 hn
  have hcons (t : Switch) : ({ l with switches := s :: l.switches } : Level).has t = (t == s || l.has t) :=
    List.contains_cons
  -- Of the four switches only these two lead on.
  have hon : (if l.has s = true then .error (.misuse .conflict) else
      .ok { l with switches := s :: l.switches } : Except Refusal Level) = .ok m := by
    rcases hs with rfl | rfl <;> exact hon
  split at hon
  · cases hon
  · cases hon
    exact ⟨rfl, rfl, rfl, hcons⟩

end Level

variable {s : Switch} {c : CommandName}

/-- Without the switch the level behind a command ends as well. -/
theorem Level.Adds.readInside {l m m' : Level} {args : List String} (h : Adds s l m)
    (hm : readInside c m args = .ok m') : ∃ l', CommandLine.readInside c l args = .ok l' ∧ Adds s l' m' := by
  induction args generalizing l m with
  | nil =>
    obtain ⟨n, hn, hfinish⟩ := bind_eq_ok_iff.1 hm
    obtain ⟨rfl, hl⟩ := h.settle hn
    obtain ⟨rfl, hl'⟩ := h.finish hfinish
    exact ⟨l, bind_eq_ok_iff.2 ⟨l, hl, hl'⟩, h⟩
  | cons arg args ih =>
    rw [readInside_cons] at hm
    obtain ⟨n, hn, hrest⟩ := bind_eq_ok_iff.1 hm
    obtain ⟨k, hk, hkn⟩ := h.argument hn
    obtain ⟨l', hl', hadds⟩ := ih hkn hrest
    exact ⟨l', by rw [readInside_cons, hk]; exact hl', hadds⟩

/-- Of two levels a command gets the values from either, and a switch that either has. -/
theorem assemble_adds {l m l' m' : Level} (hs : s = .verbose ∨ s = .quiet)
    (h : Level.Adds s l m ∧ l' = m' ∨ l = m ∧ Level.Adds s l' m') :
    assemble c m m' = (assemble c l l').turnOn s := by
  rcases h with ⟨h, rfl⟩ | ⟨rfl, h⟩
  all_goals
    have hother : (Switch.quiet == Switch.verbose) = false ∧ (Switch.verbose == Switch.quiet) = false := by decide
    rcases hs with rfl | rfl
    all_goals simp [assemble, h.get?, h.has, Invocation.turnOn, hother]

/-- Before the command a switch makes no other difference than to what is asked for. -/
theorem Level.Adds.readOutside (hs : s = .verbose ∨ s = .quiet) {l m : Level} {args : List String} {j : Invocation}
    (h : Adds s l m) (hm : readOutside m args = .ok j) :
    ∃ i, CommandLine.readOutside l args = .ok i ∧ j = i.turnOn s := by
  induction args generalizing l m with
  | nil =>
    obtain ⟨n, -, hn⟩ := bind_eq_ok_iff.1 hm
    cases hn
  | cons arg args ih =>
    rw [CommandLine.readOutside] at hm ⊢
    rw [h.ended, h.pending] at hm
    split at hm
    · cases hm
    next hhelp =>
    rw [if_neg hhelp]
    split at hm
    · next c hc =>
      obtain ⟨inner, hinner, hm⟩ := bind_eq_ok_iff.1 hm
      obtain ⟨outer, houter, hm⟩ := bind_eq_ok_iff.1 hm
      obtain ⟨rfl, hl⟩ := h.finish houter
      cases hm
      exact ⟨_, bind_eq_ok_iff.2 ⟨inner, hinner, bind_eq_ok_iff.2 ⟨l, hl, rfl⟩⟩, assemble_adds hs (.inl ⟨h, rfl⟩)⟩
    · next hc =>
      split at hm
      · cases hm
      next n hn =>
      obtain ⟨k, hk, hkn⟩ := h.argument hn
      simp only [hk]
      exact ih hkn hm

/-- A switch that stands somewhere behind a command makes no other difference than that it is on. -/
theorem readInside_insert (hs : s = .verbose ∨ s = .quiet) (form : Form) {l m' : Level} {before behind : List String}
    (h : readInside c l (before ++ (Word.switch s form).text :: behind) = .ok m') :
    ∃ l', readInside c l (before ++ behind) = .ok l' ∧ Level.Adds s l' m' := by
  induction before generalizing l with
  | nil =>
    rw [List.nil_append, readInside_cons] at h
    obtain ⟨m, hm, h⟩ := bind_eq_ok_iff.1 h
    exact (Level.adds_of_switch hs form hm).readInside h
  | cons arg before ih =>
    rw [List.cons_append, readInside_cons] at h ⊢
    obtain ⟨n, hn, h⟩ := bind_eq_ok_iff.1 h
    rw [hn]
    exact ih h

theorem readOutside_insert (hs : s = .verbose ∨ s = .quiet) (form : Form) {l : Level} {before behind : List String}
    {j : Invocation} (h : readOutside l (before ++ (Word.switch s form).text :: behind) = .ok j) :
    ∃ i, readOutside l (before ++ behind) = .ok i ∧ j = i.turnOn s := by
  induction before generalizing l with
  | nil =>
    have hplain (text : String) (htext : text.toList.head? ≠ some '-') : (Word.switch s form).text ≠ text := by
      rintro rfl
      exact htext (Word.head?_text _)
    have hname : CommandName.ofText? (Word.switch s form).text = none := by
      refine Option.eq_none_iff_forall_ne_some.2 fun c hc => hplain c.text ?_ (ofText?_eq_some_iff.1 hc)
      cases c <;> decide
    rw [List.nil_append, readOutside, if_neg fun h => hplain "help" (by decide) h.2.2, hname, ite_self] at h
    dsimp only at h
    split at h
    · cases h
    next m hm =>
    exact (Level.adds_of_switch hs form hm).readOutside hs h
  | cons arg before ih =>
    rw [List.cons_append, readOutside] at h ⊢
    split at h
    · cases h
    next hhelp =>
    rw [if_neg hhelp]
    split at h
    · next c hc =>
      obtain ⟨inner, hinner, h⟩ := bind_eq_ok_iff.1 h
      obtain ⟨outer, houter, h⟩ := bind_eq_ok_iff.1 h
      cases h
      obtain ⟨inner', hinner', hadds⟩ := readInside_insert hs form hinner
      exact ⟨_, bind_eq_ok_iff.2 ⟨inner', hinner', bind_eq_ok_iff.2 ⟨outer, houter, rfl⟩⟩,
        assemble_adds hs (.inr ⟨rfl, hadds⟩)⟩
    · next hc =>
      split at h
      · cases h
      next n hn =>
      exact ih h

/-- Without a switch that stands somewhere among them, arguments ask for the same, but for the switch. -/
theorem read_insert (hs : s = .verbose ∨ s = .quiet) (form : Form) {before behind : List String} {j : Invocation}
    (h : read (before ++ (Word.switch s form).text :: behind) = .ok j) :
    ∃ i, read (before ++ behind) = .ok i ∧ j = i.turnOn s :=
  readOutside_insert hs form h

end QueryAudit.CommandLine
