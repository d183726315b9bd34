import QueryAudit.Proofs.CommandLine.Word
/-!
# Verbose and quiet

`switches_exclude`: of the two switches one at most is turned on before the command and one at most behind it, so
that a command is verbose and quiet at once exactly if one of them stands on either side.
-/

namespace QueryAudit.CommandLine

/-! ## Arguments that turn switches on -/

/-- Whether an argument turns a switch on: it is the name, or letters with the one of the switch among them. -/
def Switch.isIn (s : Switch) (arg : String) : Bool :=
  match arg.toList with
  | '-' :: '-' :: name => name == s.name.toList
  | '-' :: letters => letters.contains s.letter
  | _ => false

/-- Whether one of some arguments turns a switch on. -/
def Switch.isAmong (s : Switch) (args : List String) : Bool := args.any s.isIn

theorem letter_inj {s t : Switch} (h : s.letter = t.letter) : s = t := by
  cases s <;> cases t <;> first | rfl | exact absurd h (by decide)

theorem name_switch_inj {s t : Switch} (h : s.name = t.name) : s = t := by
  cases s <;> cases t <;> first | rfl | exact absurd h (by decide)

theorem Switch.isIn_of_standsAlone (s : Switch) {arg : String} (h : StandsAlone arg) : s.isIn arg = false := by
  cases harg : arg.toList with
  | nil => simp [isIn, harg]
  | cons c cs =>
    by_cases hc : c = '-'
    · rw [h (by simp [harg, hc])]
      rfl
    · simp [isIn, harg, hc]

namespace Level

variable {l m : Level} {place : Place} {s : Switch}

theorem has_put {o : Valued} {value : String} (h : l.put o value = .ok m) : m.has s = l.has s := by
  unfold put at h
  split at h
  · cases h
  split at h
  · cases h
    rfl
  · cases h

theorem has_turnOn {t : Switch} (h : l.turnOn place t = .ok m) : m.has s = (s == t || l.has s) := by
  obtain ⟨n, hn, h⟩ := bind_eq_ok_iff.1 h
  obtain ⟨-, rfl⟩ := settle_eq_ok_iff.1 hn
  have hon {t : Switch} (h : (if l.has t = true then .error (.misuse .conflict) else
      .ok { l with switches := t :: l.switches } : Except Refusal Level) = .ok m) : m.has s = (s == t || l.has s) := by
    split at h
    · cases h
    · cases h
      exact List.contains_cons
  cases t with
  | help => cases h
  | version => cases h
  | verbose => exact hon h
  | quiet => exact hon h

/-- An argument with the name of an option that takes a value is no switch. -/
theorem beq_name_of_find?_valued {cs : List Char} {o : Valued}
    (h : place.valued.find? (·.name == String.ofList (cs.takeWhile (· != '='))) = some o) :
    (cs == s.name.toList) = false := by
  refine beq_false_of_ne fun hcs => name_valued_ne_name_switch o s ?_
  have hname := List.find?_some h
  rw [hcs, takeWhile_name_switch, String.ofList_toList] at hname
  simpa using hname

theorem has_long {cs : List Char} (h : l.long place cs = .ok m) : m.has s = (cs == s.name.toList || l.has s) := by
  simp only [long] at h
  split at h
  · next ho _ =>
    obtain ⟨n, hn, h⟩ := bind_eq_ok_iff.1 h
    obtain ⟨-, rfl⟩ := settle_eq_ok_iff.1 hn
    rw [has_put h, beq_name_of_find?_valued ho, Bool.false_or]
  · next ho _ =>
    obtain ⟨n, hn, h⟩ := bind_eq_ok_iff.1 h
    obtain ⟨-, rfl⟩ := settle_eq_ok_iff.1 hn
    cases h
    rw [beq_name_of_find?_valued ho, Bool.false_or]
    rfl
  · cases h
  · next t _ ht hattached =>
    -- Nothing is attached, so that the argument is the name of the switch and nothing else.
    have hrest : cs.dropWhile (· != '=') = [] := by
      cases hd : cs.dropWhile (· != '=') with
      | nil => rfl
      | cons c rest => rw [hd] at hattached; cases hattached
    have hcs : cs.takeWhile (· != '=') = cs := List.takeWhile_eq_self_iff.2 (List.dropWhile_eq_nil_iff.1 hrest)
    have hname : t.name = String.ofList cs := by simpa [hcs] using List.find?_some ht
    have hbeq : (cs == s.name.toList) = (s == t) := by
      rw [Bool.eq_iff_iff, beq_iff_eq, beq_iff_eq]
      constructor
      · rintro rfl
        exact name_switch_inj (by rw [hname, String.ofList_toList])
      · rintro rfl
        rw [hname, String.toList_ofList]
    rw [has_turnOn h, hbeq]
  · cases h

theorem has_short {cs : List Char} (h : l.short place cs = .ok m) : m.has s = (cs.contains s.letter || l.has s) := by
  induction cs generalizing l with
  | nil =>
    cases h
    rfl
  | cons c cs ih =>
    rw [short] at h
    split at h
    · cases h
    · next t ht =>
      obtain rfl : t.letter = c := by simpa using List.find?_some ht
      split at h
      · cases h
      · next n hn =>
        rw [ih h, has_turnOn hn, List.contains_cons]
        have hletter : (s == t) = (s.letter == t.letter) := by
          rw [Bool.eq_iff_iff, beq_iff_eq, beq_iff_eq]
          exact ⟨congrArg _, letter_inj⟩
        rw [hletter, Bool.or_left_comm, Bool.or_assoc]

/-- An argument turns on the switches that are in it, and no others. -/
theorem has_argument {arg : String} (h : l.argument place arg = .ok m) : m.has s = (s.isIn arg || l.has s) := by
  have hended : l.ended = false := by
    cases he : l.ended with
    | true => rw [argument_of_ended he] at h; cases h
    | false => rfl
  cases looks arg with
  | ending harg =>
    rw [argument_ending hended harg] at h
    cases h
    have hno : s.isIn arg = false := by
      simp only [Switch.isIn, harg]
      cases s <;> decide
    rw [hno]
    rfl
  | long harg hne =>
    rw [argument_long hended harg hne] at h
    simp [Switch.isIn, harg, has_long h]
  | short harg hc =>
    rw [argument_short hended harg hc] at h
    rw [has_short h]
    simp [Switch.isIn, harg, hc]
  | plain halone =>
    rw [argument_plain hended halone] at h
    rw [s.isIn_of_standsAlone halone, Bool.false_or]
    unfold plain at h
    split at h
    · exact has_put h
    · cases h

/-- Arguments of one level turn on the switches that are among them. -/
theorem has_arguments {args : List String} (h : l.arguments place args = .ok m) :
    m.has s = (s.isAmong args || l.has s) := by
  induction args generalizing l with
  | nil =>
    cases h
    rfl
  | cons arg args ih =>
    rw [arguments_cons] at h
    obtain ⟨n, hn, h⟩ := bind_eq_ok_iff.1 h
    rw [ih h, has_argument hn, Switch.isAmong, Switch.isAmong, List.any_cons, Bool.or_left_comm, Bool.or_assoc]

end Level

/-! ## Both levels -/

theorem isAmong_of_readInside {c : CommandName} {args : List String} {inner : Level} (h : readInside c {} args = .ok inner) :
    (∀ s, inner.has s = s.isAmong args) ∧ ¬(inner.has .verbose = true ∧ inner.has .quiet = true) := by
  rw [readInside_eq] at h
  obtain ⟨m, hm, h⟩ := bind_eq_ok_iff.1 h
  obtain ⟨n, hn, h⟩ := bind_eq_ok_iff.1 h
  obtain ⟨-, rfl⟩ := Level.settle_eq_ok_iff.1 hn
  obtain ⟨hnot, rfl⟩ := Level.finish_eq_ok_iff.1 h
  exact ⟨fun s => by rw [Level.has_arguments hm]; exact Bool.or_false _, hnot⟩

/-- The two switches exclude each other on each side of the command. Across it they do not: a command is verbose and
quiet at once exactly if one switch stands before it and the other one behind it. -/
theorem switches_exclude {args : List String} {i : Invocation} (h : read args = .ok i) :
    ∃ (before : List String) (c : CommandName) (behind : List String), args = before ++ c.text :: behind ∧
      let verbose := Switch.verbose.isAmong
      let quiet := Switch.quiet.isAmong
      i.verbose = (verbose before || verbose behind) ∧ i.quiet = (quiet before || quiet behind) ∧
      ¬(verbose before = true ∧ quiet before = true) ∧ ¬(verbose behind = true ∧ quiet behind = true) ∧
      (i.verbose = true ∧ i.quiet = true ↔
        verbose before = true ∧ quiet behind = true ∨ quiet before = true ∧ verbose behind = true) := by
  obtain ⟨before, c, behind, inner, outer, hargs, hinner, hbefore, hfinish, rfl, -⟩ := exists_command h
  obtain ⟨hbehind, hinside⟩ := isAmong_of_readInside hinner
  have houter (s : Switch) : outer.has s = s.isAmong before := by
    rw [Level.has_arguments hbefore]
    exact Bool.or_false _
  have houtside := (Level.finish_eq_ok_iff.1 hfinish).1
  have hon (s : Switch) : (inner.has s || outer.has s) = (s.isAmong before || s.isAmong behind) := by
    rw [hbehind, houter, Bool.or_comm]
  have hverbose : (assemble c outer inner).verbose = _ := hon .verbose
  have hquiet : (assemble c outer inner).quiet = _ := hon .quiet
  rw [houter, houter] at houtside
  rw [hbehind, hbehind] at hinside
  refine ⟨before, c, behind, hargs, hverbose, hquiet, houtside, hinside, ?_⟩
  rw [hverbose, hquiet, Bool.or_eq_true, Bool.or_eq_true]
  constructor
  · rintro ⟨hv | hv, hq | hq⟩
    · exact absurd ⟨hv, hq⟩ houtside
    · exact .inl ⟨hv, hq⟩
    · exact .inr ⟨hq, hv⟩
    · exact absurd ⟨hv, hq⟩ hinside
  · rintro (⟨hv, hq⟩ | ⟨hq, hv⟩)
    · exact ⟨.inl hv, .inr hq⟩
    · exact ⟨.inr hv, .inl hq⟩

/-- Values that look like switches turn nothing on. -/
theorem switches_exclude_letters : ∃ (before : List String) (c : CommandName) (behind : List String),
    ["-v", "--host=-q", "write", "--query=--quiet", "--user", "q"] = before ++ c.text :: behind ∧
      true = (Switch.verbose.isAmong before || Switch.verbose.isAmong behind) ∧
      false = (Switch.quiet.isAmong before || Switch.quiet.isAmong behind) := by
  have h : read ["-v", "--host=-q", "write", "--query=--quiet", "--user", "q"] = .ok (assemble .write
    { values := [(.field .host, "-q")], switches := [.verbose] } { values := [(.user, "q"), (.query, "--quiet")] }) := rfl
  obtain ⟨before, c, behind, hargs, hverbose, hquiet, -⟩ := switches_exclude h
  exact ⟨before, c, behind, hargs, hverbose, hquiet⟩

/-- Across the command they meet. -/
theorem switches_meet : ∃ i, read ["-v", "config", "-q"] = .ok i ∧ i.verbose = true ∧ i.quiet = true :=
  ⟨_, rfl, rfl, rfl⟩

end QueryAudit.CommandLine
