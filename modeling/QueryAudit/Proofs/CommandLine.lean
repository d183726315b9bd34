import QueryAudit.CommandLine.Reading
import QueryAudit.Proofs.Outcome
/-!
# Where the command stands

`exists_command`: arguments that ask for something have one place at which the command is named, and what stands
before it and behind it is read in the same way for any other command there; `readOutside_append` and
`readInside_eq` are the way back. `read_write_of_envelope`: the two commands that are about a record take the same
arguments.
-/

namespace QueryAudit.CommandLine

theorem ofText?_eq_some_iff {s : String} {c : CommandName} : CommandName.ofText? s = some c ↔ s = c.text := by
  constructor
  · intro h
    have := List.find?_some h
    exact (by simpa using this : c.text = s).symm
  · rintro rfl
    cases c <;> rfl

theorem text_ne_help (c : CommandName) : c.text ≠ "help" := by cases c <;> decide

/-! ## Places with the same options -/

/-- The same options can be given at two places. They may still have different pages of help. -/
structure Place.Alike (p q : Place) : Prop where
  valued : p.valued = q.valued
  switches : p.switches = q.switches

theorem Place.alike_inside {c d : CommandName} (h : c.takesRecord = d.takesRecord) :
    Place.Alike (.inside c) (.inside d) where
  valued := by simp only [Place.valued, h]
  switches := rfl

namespace Level

variable {l m : Level} {p q : Place}

theorem turnOn_alike {s : Switch} (h : l.turnOn p s = .ok m) : l.turnOn q s = .ok m := by
  obtain ⟨n, hn, h⟩ := bind_eq_ok_iff.1 h
  refine bind_eq_ok_iff.2 ⟨n, hn, ?_⟩
  cases s with
  | help => cases h
  | version => cases h
  | verbose => exact h
  | quiet => exact h

theorem long_alike (hpq : p.Alike q) {s : List Char} (h : l.long p s = .ok m) : l.long q s = .ok m := by
  simp only [long, hpq.valued, hpq.switches] at h ⊢
  split at h
  · exact h
  · exact h
  · cases h
  · exact turnOn_alike h
  · cases h

theorem short_alike (hpq : p.Alike q) {s : List Char} (h : l.short p s = .ok m) : l.short q s = .ok m := by
  induction s generalizing l with
  | nil => exact h
  | cons c cs ih =>
    simp only [short, hpq.switches] at h ⊢
    split at h
    · cases h
    · next s hs =>
      split at h
      · cases h
      · next n hn =>
        rw [turnOn_alike hn]
        exact ih h

theorem plain_alike {arg : String} (h : l.plain p arg = .ok m) : l.plain q arg = .ok m := by
  unfold plain at h ⊢
  cases hp : l.pending with
  | some o =>
    rw [hp] at h
    exact h
  | none =>
    rw [hp] at h
    cases h

theorem argument_alike (hpq : p.Alike q) {arg : String} (h : l.argument p arg = .ok m) : l.argument q arg = .ok m := by
  unfold argument at h ⊢
  split at h
  · cases h
  · next hended =>
    rw [if_neg hended]
    split at h
    · exact h
    · exact long_alike hpq h
    · exact plain_alike h
    · exact short_alike hpq h
    · exact plain_alike h

end Level

theorem readInside_alike {c d : CommandName} (hcd : c.takesRecord = d.takesRecord) {l m : Level} {args : List String}
    (h : readInside c l args = .ok m) : readInside d l args = .ok m := by
  induction args generalizing l with
  | nil => exact h
  | cons arg args ih =>
    simp only [readInside] at h ⊢
    split at h
    · cases h
    · next n hn =>
      rw [Level.argument_alike (Place.alike_inside hcd) hn]
      exact ih h

/-! ## One level -/

namespace Level

/-- Arguments of one level in their order. -/
def arguments (l : Level) (place : Place) (args : List String) : Except Refusal Level :=
  args.foldlM (fun l arg => l.argument place arg) l

variable {l m : Level} {place : Place}

theorem arguments_cons (arg : String) (args : List String) :
    l.arguments place (arg :: args) = (l.argument place arg).bind fun m => m.arguments place args := rfl

theorem finish_eq_ok_iff : l.finish = .ok m ↔ ¬(l.has .verbose = true ∧ l.has .quiet = true) ∧ l = m := by
  unfold finish
  split <;> simp_all

theorem settle_eq_ok_iff : l.settle = .ok m ↔ l.pending = none ∧ l = m := by
  unfold settle
  cases l.pending <;> simp

end Level

theorem readInside_cons {c : CommandName} {l : Level} (arg : String) (args : List String) :
    readInside c l (arg :: args) = (l.argument (.inside c) arg).bind fun m => readInside c m args := by
  rw [readInside]
  cases l.argument (.inside c) arg <;> rfl

theorem readInside_eq (c : CommandName) (l : Level) (args : List String) :
    readInside c l args = (l.arguments (.inside c) args).bind fun m => m.settle.bind Level.finish := by
  induction args generalizing l with
  | nil => rfl
  | cons arg args ih =>
    rw [readInside_cons, Level.arguments_cons]
    cases l.argument (.inside c) arg with
    | error e => rfl
    | ok m => exact ih m

/-! ## The command -/

/-- Arguments that name no command are options, or values of options, before it. -/
theorem readOutside_append {before : List String} (h : ∀ arg ∈ before, arg ≠ "help" ∧ CommandName.ofText? arg = none)
    (l : Level) (args : List String) :
    readOutside l (before ++ args) = (l.arguments .outside before).bind fun m => readOutside m args := by
  induction before generalizing l with
  | nil => rfl
  | cons arg before ih =>
    obtain ⟨hhelp, hname⟩ := h arg List.mem_cons_self
    rw [List.cons_append, readOutside, if_neg (fun h => hhelp h.2.2), hname, ite_self, Level.arguments_cons]
    cases l.argument .outside arg with
    | error e => rfl
    | ok m => exact ih (fun a ha => h a (List.mem_cons_of_mem _ ha)) m

/-- What is read once the command is reached. -/
theorem readOutside_text {l : Level} (hended : l.ended = false) (hpending : l.pending = none) (c : CommandName)
    (args : List String) : readOutside l (c.text :: args) =
      (readInside c {} args).bind fun inner => l.finish.bind fun outer => .ok (assemble c outer inner) := by
  rw [readOutside, if_neg (fun h => text_ne_help c h.2.2)]
  simp only [hended, hpending, Option.isSome_none, Bool.or_false, Bool.false_eq_true, if_false,
    ofText?_eq_some_iff.2 rfl]
  rfl

/-- Arguments that ask for something name a command somewhere, and those before it come to the same for every
command that stands there. -/
theorem exists_command {l : Level} {args : List String} {i : Invocation} (h : readOutside l args = .ok i) :
    ∃ before c behind inner outer, args = before ++ c.text :: behind ∧ readInside c {} behind = .ok inner ∧
      l.arguments .outside before = .ok outer ∧ outer.finish = .ok outer ∧ i = assemble c outer inner ∧
      ∀ d inner', readInside d {} behind = .ok inner' →
        readOutside l (before ++ d.text :: behind) = .ok (assemble d outer inner') := by
  induction args generalizing l with
  | nil =>
    obtain ⟨_, -, h⟩ := bind_eq_ok_iff.1 h
    cases h
  | cons arg args ih =>
    rw [readOutside] at h
    split at h
    · cases h
    · next hhelp =>
      split at h
      -- Either the command is named here, or this argument stands before it and is an option.
      · next c hc =>
        obtain ⟨inner, hinner, h⟩ := bind_eq_ok_iff.1 h
        obtain ⟨outer, houter, h⟩ := bind_eq_ok_iff.1 h
        split at hc
        · cases hc
        · next hopen =>
          obtain ⟨hended, hpending⟩ : l.ended = false ∧ l.pending = none := by simpa using hopen
          obtain rfl := ofText?_eq_some_iff.1 hc
          obtain ⟨-, rfl⟩ := Level.finish_eq_ok_iff.1 houter
          refine ⟨[], c, args, inner, l, rfl, hinner, rfl, houter, (Except.ok.inj h).symm, fun d inner' hd => ?_⟩
          rw [List.nil_append, readOutside_text hended hpending]
          exact bind_eq_ok_iff.2 ⟨inner', hd, bind_eq_ok_iff.2 ⟨l, houter, rfl⟩⟩
      · next hc =>
        split at h
        · cases h
        · next n hn =>
          obtain ⟨before, c, behind, inner, outer, rfl, hinner, hbefore, houter, hi, hrest⟩ := ih h
          have hfirst : l.arguments .outside (arg :: before) = .ok outer := by
            rw [Level.arguments_cons, hn]
            exact hbefore
          refine ⟨arg :: before, c, behind, inner, outer, rfl, hinner, hfirst, houter, hi, fun d inner' hd => ?_⟩
          rw [List.cons_append, readOutside, if_neg hhelp]
          simp only [hc, hn]
          exact hrest d inner' hd

/-- A preview becomes a delivery, with everything else as it was, by the word of the command alone. -/
theorem read_write_of_envelope {args : List String} {i : Invocation} {r : RecordOptions} (h : read args = .ok i)
    (hr : i.command = .envelope r) : ∃ before behind, args = before ++ "envelope" :: behind ∧
      read (before ++ "write" :: behind) = .ok { i with command := .write r } := by
  obtain ⟨before, c, behind, inner, outer, rfl, hinner, -, -, rfl, hrest⟩ := exists_command h
  cases c with
  | write => cases hr
  | config => cases hr
  | envelope =>
    cases hr
    exact ⟨before, behind, rfl, hrest .write inner (readInside_alike (c := .envelope) (d := .write) rfl hinner)⟩

end QueryAudit.CommandLine
