import Mathlib.Data.List.TakeWhile
import QueryAudit.Proofs.CommandLine
import QueryAudit.Proofs.CommandLine.Numeral
/-!
# Words of a command line

A word is an argument that says one thing: an option with its value attached, or a switch. What a word says is
noted, and nothing else changes (`argument_text`); a list of words leaves a level in which just what they say is
noted (`arguments_text`, `get?_foldl_note`, `has_foldl_note`).
-/

namespace QueryAudit.CommandLine

/-- An option of either kind. -/
inductive OptionName
  | valued (o : Valued)
  | switch (s : Switch)
deriving DecidableEq

/-- How a switch is written. -/
inductive Form
  | long
  | short

/-- An argument that says one thing. -/
inductive Word
  | value (o : Valued) (value : String)
  | switch (s : Switch) (form : Form)

namespace Word

/-- A word as it is typed. -/
def text : Word → String
  | value o s => "--" ++ o.name ++ "=" ++ s
  | switch s .long => "--" ++ s.name
  | switch s .short => "-" ++ s.letter.toString

/-- The option that a word is about. -/
def option : Word → OptionName
  | value o _ => .valued o
  | switch s _ => .switch s

/-- A word can stand at a place: there is such an option there and it takes the value, or the switch is one that
does not ask for a text instead of a command. -/
inductive Suits (place : Place) : Word → Prop
  | value {o s} : o ∈ place.valued → o.accepts s = true → Suits place (.value o s)
  | verbose {form} : Suits place (.switch .verbose form)
  | quiet {form} : Suits place (.switch .quiet form)

theorem toList_text_value (o : Valued) (s : String) :
    (value o s).text.toList = '-' :: '-' :: (o.name.toList ++ '=' :: s.toList) := by
  simp [text, String.toList_append]

theorem toList_text_long (s : Switch) : (switch s .long).text.toList = '-' :: '-' :: s.name.toList := by
  simp [text, String.toList_append]

/-- Words are no commands. -/
theorem head?_text (w : Word) : w.text.toList.head? = some '-' := by
  cases w with
  | value o s => rw [toList_text_value, List.head?_cons]
  | switch s form =>
    cases form with
    | long => rw [toList_text_long, List.head?_cons]
    | short => cases s <;> rfl

end Word

/-! ## Names -/

theorem name_valued_inj {o p : Valued} (h : o.name = p.name) : o = p := by
  cases o with
  | field f => cases p with
    | field g => cases f <;> cases g <;> first | rfl | exact absurd h (by decide)
    | _ => cases f <;> exact absurd h (by decide)
  | _ => cases p with
    | field g => cases g <;> exact absurd h (by decide)
    | _ => first | rfl | exact absurd h (by decide)

theorem name_valued_ne_name_switch (o : Valued) (s : Switch) : o.name ≠ s.name := by
  cases o with
  | field f => cases f <;> cases s <;> decide
  | _ => cases s <;> decide

/-- A name ends where its value begins. -/
theorem ne_equals_of_mem_name {o : Valued} {c : Char} (h : c ∈ o.name.toList) : (c != '=') = true := by
  have hall : o.name.toList.all (· != '=') = true := by
    cases o with
    | field f => cases f <;> decide
    | _ => decide
  exact List.all_eq_true.1 hall c h

theorem takeWhile_name_valued (o : Valued) : o.name.toList.takeWhile (· != '=') = o.name.toList :=
  List.takeWhile_eq_self_iff.2 fun _ => ne_equals_of_mem_name

theorem dropWhile_name_valued (o : Valued) : o.name.toList.dropWhile (· != '=') = [] :=
  List.dropWhile_eq_nil_iff.2 fun _ => ne_equals_of_mem_name

theorem takeWhile_name_switch (s : Switch) : s.name.toList.takeWhile (· != '=') = s.name.toList := by
  cases s <;> decide

theorem dropWhile_name_switch (s : Switch) : s.name.toList.dropWhile (· != '=') = [] := by
  cases s <;> decide

theorem find?_valued {place : Place} {o : Valued} (h : o ∈ place.valued) :
    place.valued.find? (·.name == o.name) = some o := by
  have hsome : (place.valued.find? (·.name == o.name)).isSome := List.find?_isSome.2 ⟨o, h, beq_self_eq_true _⟩
  obtain ⟨p, hp⟩ := Option.isSome_iff_exists.1 hsome
  have hname : p.name = o.name := by simpa using List.find?_some hp
  rw [hp, name_valued_inj hname]

theorem find?_valued_switch (place : Place) (s : Switch) : place.valued.find? (·.name == s.name) = none :=
  List.find?_eq_none.2 fun o _ => by simpa using name_valued_ne_name_switch o s

/-! ## Looks -/

/-- An argument that can be a value by itself: it is no hyphen with something behind it. -/
def StandsAlone (arg : String) : Prop := arg.toList.head? = some '-' → arg = "-"

/-- What an argument looks like. -/
inductive Looks (arg : String) : Prop
  | ending : arg.toList = ['-', '-'] → Looks arg
  | long {s} : arg.toList = '-' :: '-' :: s → s ≠ [] → Looks arg
  | short {c cs} : arg.toList = '-' :: c :: cs → c ≠ '-' → Looks arg
  | plain : StandsAlone arg → Looks arg

theorem looks (arg : String) : Looks arg := by
  cases harg : arg.toList with
  | nil => exact .plain fun h => by simp [harg] at h
  | cons c cs =>
    by_cases hc : c = '-'
    · subst hc
      cases cs with
      | nil => exact .plain fun _ => String.toList_injective harg
      | cons d ds =>
        by_cases hd : d = '-'
        · subst hd
          cases ds with
          | nil => exact .ending harg
          | cons e es => exact .long harg (List.cons_ne_nil e es)
        · exact .short harg hd
    · exact .plain fun h => absurd (by simpa [harg] using h) hc

namespace Level

variable {l : Level} {place : Place} {arg : String}

theorem argument_of_ended (h : l.ended = true) : l.argument place arg = .error (.misuse (l.stray place arg)) := by
  simp [argument, h]

theorem argument_ending (hl : l.ended = false) (h : arg.toList = ['-', '-']) :
    l.argument place arg = .ok { l with ended := true } := by
  simp [argument, hl, h]

theorem argument_long (hl : l.ended = false) {s : List Char} (h : arg.toList = '-' :: '-' :: s) (hs : s ≠ []) :
    l.argument place arg = l.long place s := by
  cases s with
  | nil => exact absurd rfl hs
  | cons c cs => simp [argument, hl, h]

theorem argument_short (hl : l.ended = false) {c : Char} {cs : List Char} (h : arg.toList = '-' :: c :: cs)
    (hc : c ≠ '-') : l.argument place arg = l.short place (c :: cs) := by
  simp [argument, hl, h, hc]

theorem argument_plain (hl : l.ended = false) (h : StandsAlone arg) : l.argument place arg = l.plain place arg := by
  cases harg : arg.toList with
  | nil => simp [argument, hl, harg]
  | cons c cs =>
    by_cases hc : c = '-'
    · have hlone : arg = "-" := h (by simp [harg, hc])
      subst hlone
      simp [argument, hl]
    · simp [argument, hl, harg, hc]

end Level

/-! ## One word -/

namespace Level

/-- A level at which an option may stand next. -/
structure IsOpen (l : Level) : Prop where
  pending : l.pending = none
  ended : l.ended = false

/-- Whether an option has been given. -/
def mentions (l : Level) : OptionName → Bool
  | .valued o => (l.get? o).isSome
  | .switch s => l.has s

/-- A level in which a word is noted. -/
def note (l : Level) : Word → Level
  | .value o s => { l with values := (o, s) :: l.values }
  | .switch s _ => { l with switches := s :: l.switches }

variable {l : Level} {place : Place}

theorem IsOpen.note (h : l.IsOpen) (w : Word) : (l.note w).IsOpen := by
  cases w <;> exact ⟨h.pending, h.ended⟩

theorem IsOpen.settle (h : l.IsOpen) : l.settle = .ok l := settle_eq_ok_iff.2 ⟨h.pending, rfl⟩

theorem get?_note_value (o p : Valued) (s : String) :
    (l.note (.value o s)).get? p = if p = o then some s else l.get? p := by
  unfold Level.get? note
  rw [List.lookup_cons]
  by_cases h : p = o
  · simp [h]
  · rw [if_neg h, beq_false_of_ne h]

theorem has_note_switch (s t : Switch) (form : Form) : (l.note (.switch s form)).has t = (t == s || l.has t) :=
  List.contains_cons

theorem mentions_note (w : Word) (k : OptionName) : (l.note w).mentions k = true ↔ k = w.option ∨ l.mentions k = true := by
  cases w with
  | value o s =>
    cases k with
    | valued p =>
      simp only [mentions, get?_note_value, Word.option, OptionName.valued.injEq]
      split <;> simp_all
    | switch t => simp [mentions, note, has, Word.option]
  | switch s form =>
    cases k with
    | valued p => simp [mentions, note, get?, Word.option]
    | switch t => simp [mentions, has_note_switch, Word.option]

theorem turnOn_eq (hl : l.IsOpen) {s : Switch} (hs : s = .verbose ∨ s = .quiet) (hnew : l.has s = false) (form : Form) :
    l.turnOn place s = .ok (l.note (.switch s form)) := by
  unfold turnOn
  rw [hl.settle]
  rcases hs with rfl | rfl <;> simp [bind, Except.bind, hnew, note]

theorem put_eq (hl : l.IsOpen) {o : Valued} {s : String} (haccepts : o.accepts s = true)
    (hnew : (l.get? o).isSome = false) : l.put o s = .ok (l.note (.value o s)) := by
  obtain ⟨values, switches, pending, ended⟩ := l
  obtain ⟨rfl, rfl⟩ := hl
  simp [put, haccepts, hnew, note]

/-- An option with its value attached. -/
theorem argument_value (hl : l.IsOpen) {o : Valued} (h : o ∈ place.valued) (s : String) :
    l.argument place (Word.value o s).text = l.put o s := by
  have htake : (o.name.toList ++ '=' :: s.toList).takeWhile (· != '=') = o.name.toList := by
    rw [List.takeWhile_append_of_pos fun c => ne_equals_of_mem_name, List.takeWhile_cons]
    simp
  have hdrop : (o.name.toList ++ '=' :: s.toList).dropWhile (· != '=') = '=' :: s.toList := by
    rw [List.dropWhile_append_of_pos fun c => ne_equals_of_mem_name, List.dropWhile_cons]
    simp
  rw [argument_long hl.ended (Word.toList_text_value o s) (by simp)]
  simp only [long, htake, hdrop, String.ofList_toList, find?_valued h, hl.settle, bind, Except.bind]

/-- A switch in either form. -/
theorem argument_switch (hl : l.ended = false) {s : Switch} (hs : s = .verbose ∨ s = .quiet) (form : Form) :
    l.argument place (Word.switch s form).text = l.turnOn place s := by
  have hname : place.switches.find? (·.name == s.name) = some s := by
    rcases hs with rfl | rfl <;> cases place <;> rfl
  have hletter : place.switches.find? (·.letter == s.letter) = some s := by
    rcases hs with rfl | rfl <;> cases place <;> rfl
  cases form with
  | long =>
    rw [argument_long hl (Word.toList_text_long s) (by cases s <;> decide)]
    simp only [long, takeWhile_name_switch, dropWhile_name_switch, String.ofList_toList, find?_valued_switch, hname]
  | short =>
    have htext : (Word.switch s .short).text.toList = '-' :: s.letter :: [] := by cases s <;> rfl
    rw [argument_short hl htext (by cases s <;> decide), short, hletter]
    simp only [short]
    cases l.turnOn place s <;> rfl

/-- A word that suits its place and says something new is noted. -/
theorem argument_text (hl : l.IsOpen) {w : Word} (hw : w.Suits place) (hnew : l.mentions w.option = false) :
    l.argument place w.text = .ok (l.note w) := by
  cases hw with
  | value ho haccepts => rw [argument_value hl ho, put_eq hl haccepts hnew]
  | @verbose form => rw [argument_switch hl.ended (.inl rfl), turnOn_eq hl (.inl rfl) hnew form]
  | @quiet form => rw [argument_switch hl.ended (.inr rfl), turnOn_eq hl (.inr rfl) hnew form]

/-! ## Words in order -/

/-- What a word has said is not said again. -/
theorem mentions_note_of_once {w : Word} {ws : List Word} (hnew : ∀ v ∈ w :: ws, l.mentions v.option = false)
    (honce : ((w :: ws).map Word.option).Nodup) : ∀ v ∈ ws, (l.note w).mentions v.option = false := by
  intro v hv
  rw [List.map_cons, List.nodup_cons] at honce
  rw [Bool.eq_false_iff, ne_eq, mentions_note]
  rintro (h | h)
  · exact honce.1 (h ▸ List.mem_map_of_mem hv)
  · rw [hnew v (List.mem_cons_of_mem _ hv)] at h
    cases h

/-- Words that say something new each are noted one after the other. -/
theorem arguments_text (hl : l.IsOpen) {ws : List Word} (hws : ∀ w ∈ ws, w.Suits place)
    (hnew : ∀ w ∈ ws, l.mentions w.option = false) (honce : (ws.map Word.option).Nodup) :
    l.arguments place (ws.map Word.text) = .ok (ws.foldl note l) := by
  induction ws generalizing l with
  | nil => rfl
  | cons w ws ih =>
    rw [List.map_cons, arguments_cons, argument_text hl (hws w List.mem_cons_self) (hnew w List.mem_cons_self)]
    exact ih (hl.note w) (fun v hv => hws v (List.mem_cons_of_mem _ hv)) (mentions_note_of_once hnew honce)
      (List.nodup_cons.1 honce).2

theorem IsOpen.foldl_note (hl : l.IsOpen) (ws : List Word) : (ws.foldl Level.note l).IsOpen := by
  induction ws generalizing l with
  | nil => exact hl
  | cons w ws ih => exact ih (hl.note w)

/-- The value of an option is the one that a word has given it. -/
theorem get?_foldl_note {ws : List Word} (hnew : ∀ w ∈ ws, l.mentions w.option = false)
    (honce : (ws.map Word.option).Nodup) {o : Valued} {s : String} :
    (ws.foldl note l).get? o = some s ↔ .value o s ∈ ws ∨ l.get? o = some s := by
  induction ws generalizing l with
  | nil => simp
  | cons w ws ih =>
    rw [List.foldl_cons, ih (mentions_note_of_once hnew honce) (List.nodup_cons.1 honce).2]
    cases w with
    | switch t form => simp [note, get?]
    | value p t =>
      rw [get?_note_value]
      by_cases hop : o = p
      · subst hop
        have hnone : l.get? o = none := by simpa [mentions, Word.option] using hnew _ List.mem_cons_self
        simp [hnone, eq_comm, or_comm]
      · simp [hop]

/-- A switch is on if a word has turned it on. -/
theorem has_foldl_note (ws : List Word) (s : Switch) :
    (ws.foldl note l).has s = true ↔ (∃ form, .switch s form ∈ ws) ∨ l.has s = true := by
  induction ws generalizing l with
  | nil => simp
  | cons w ws ih =>
    rw [List.foldl_cons, ih]
    cases w with
    | value o t => simp [note, has]
    | switch t form =>
      rw [has_note_switch]
      by_cases hst : s = t
      · subst hst
        simp
      · simp [hst]

end Level

end QueryAudit.CommandLine
