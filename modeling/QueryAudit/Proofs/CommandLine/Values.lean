import QueryAudit.Proofs.CommandLine.Spelling
/-!
# Values that are arguments of their own

A value may also follow its option as the next argument. `read_record`: a record is read from either spelling
alike, as long as no value looks like an option; one that does has to be attached.
-/

namespace QueryAudit.CommandLine

/-! ## The two spellings -/

/-- Options with their values behind them. -/
def apart (values : List (Valued × String)) : List String := values.flatMap fun p => ["--" ++ p.1.name, p.2]

/-- Options with their values attached. -/
def attached (values : List (Valued × String)) : List String := values.map fun p => (Word.value p.1 p.2).text

namespace Level

variable {l : Level} {place : Place} {o : Valued} {s : String}

/-- The option alone waits for its value. -/
theorem argument_name (hl : l.IsOpen) (ho : o ∈ place.valued) :
    l.argument place ("--" ++ o.name) = .ok { l with pending := some o } := by
  have htext : ("--" ++ o.name).toList = '-' :: '-' :: o.name.toList := by simp [String.toList_append]
  have hname : o.name.toList ≠ [] := by
    cases o with
    | field f => cases f <;> decide
    | _ => decide
  rw [argument_long hl.ended htext hname]
  simp only [long, takeWhile_name_valued, dropWhile_name_valued, String.ofList_toList, find?_valued ho, hl.settle, bind,
    Except.bind]

/-- A value that stands alone is taken by the option that waits for it. -/
theorem argument_pending (hl : l.IsOpen) (hs : StandsAlone s) :
    ({ l with pending := some o } : Level).argument place s = l.put o s :=
  (argument_plain (l := { l with pending := some o }) hl.ended hs).trans rfl

theorem misuse_of_put {e : Refusal} (h : l.put o s = .error e) : ∃ why, e = .misuse why := by
  unfold put at h
  split at h
  · exact ⟨_, (Except.error.inj h).symm⟩
  split at h
  · cases h
  · exact ⟨_, (Except.error.inj h).symm⟩

theorem isOpen_of_put {m : Level} (hl : l.IsOpen) (h : l.put o s = .ok m) : m.IsOpen := by
  unfold put at h
  split at h
  · cases h
  split at h
  · cases h
    exact ⟨rfl, hl.ended⟩
  · cases h

theorem settle_of_pending (h : l.pending = some o) : l.settle = .error (.misuse .valueMissing) := by
  simp only [settle, h]

/-- Nothing that looks like an option is a value: it is out of place, or it ends the options. -/
theorem argument_not_alone (hp : l.pending = some o) (he : l.ended = false) (hs : ¬StandsAlone s) :
    (∃ why, l.argument place s = .error (.misuse why)) ∨ l.argument place s = .ok { l with ended := true } := by
  have hsettle := settle_of_pending hp
  cases looks s with
  | ending h => exact .inr (argument_ending he h)
  | plain h => exact absurd h hs
  | short h hc =>
    rw [argument_short he h hc, short]
    split
    · exact .inl ⟨_, rfl⟩
    · simp only [turnOn, hsettle, bind, Except.bind]
      exact .inl ⟨_, rfl⟩
  | long h hne =>
    rw [argument_long he h hne]
    simp only [long, turnOn, hsettle, bind, Except.bind]
    split
    all_goals exact .inl ⟨_, rfl⟩

end Level

variable {c : CommandName} {l : Level} {o : Valued} {s : String}

/-- Behind the end of the options no value can come any more. -/
theorem readInside_of_ended (hp : l.pending = some o) (he : l.ended = true) (args : List String) :
    ∃ why, readInside c l args = .error (.misuse why) := by
  cases args with
  | nil => exact ⟨.valueMissing, by simp [readInside, Level.settle_of_pending hp, bind, Except.bind]⟩
  | cons arg args => exact ⟨_, by rw [readInside_cons, Level.argument_of_ended he]; rfl⟩

theorem readInside_not_alone (hl : l.IsOpen) (ho : o ∈ (Place.inside c).valued) (hs : ¬StandsAlone s) (args : List String) :
    ∃ why, readInside c l (("--" ++ o.name) :: s :: args) = .error (.misuse why) := by
  rw [readInside_cons, Level.argument_name hl ho, Except.bind, readInside_cons]
  obtain ⟨why, h⟩ | h := @Level.argument_not_alone { l with pending := some o } (.inside c) o s rfl hl.ended hs
  · exact ⟨why, by rw [h]; rfl⟩
  · rw [h]
    exact readInside_of_ended rfl rfl args

/-- Values that stand alone may be behind their options or attached to them. -/
theorem readInside_apart (hl : l.IsOpen) {values : List (Valued × String)}
    (hplace : ∀ p ∈ values, p.1 ∈ (Place.inside c).valued) (halone : ∀ p ∈ values, StandsAlone p.2) :
    readInside c l (apart values) = readInside c l (attached values) := by
  induction values generalizing l with
  | nil => rfl
  | cons p values ih =>
    have ho := hplace p List.mem_cons_self
    have hleft : readInside c l (apart (p :: values)) = (l.put p.1 p.2).bind fun m => readInside c m (apart values) := by
      change readInside c l (("--" ++ p.1.name) :: p.2 :: apart values) = _
      rw [readInside_cons, Level.argument_name hl ho, Except.bind, readInside_cons,
        Level.argument_pending hl (halone p List.mem_cons_self)]
    have hright : readInside c l (attached (p :: values)) =
        (l.put p.1 p.2).bind fun m => readInside c m (attached values) := by
      change readInside c l ((Word.value p.1 p.2).text :: attached values) = _
      rw [readInside_cons, Level.argument_value hl ho]
    rw [hleft, hright]
    cases hm : l.put p.1 p.2 with
    | error e => rfl
    | ok m =>
      exact ih (Level.isOpen_of_put hl hm) (fun q hq => hplace q (List.mem_cons_of_mem _ hq))
        (fun q hq => halone q (List.mem_cons_of_mem _ hq))

/-- A value that does not stand alone is refused behind its option. -/
theorem misuse_of_apart (hl : l.IsOpen) {values : List (Valued × String)}
    (hplace : ∀ p ∈ values, p.1 ∈ (Place.inside c).valued) (hnot : ¬∀ p ∈ values, StandsAlone p.2) :
    ∃ why, readInside c l (apart values) = .error (.misuse why) := by
  induction values generalizing l with
  | nil => exact absurd nofun hnot
  | cons p values ih =>
    have ho := hplace p List.mem_cons_self
    change ∃ why, readInside c l (("--" ++ p.1.name) :: p.2 :: apart values) = _
    by_cases hp : StandsAlone p.2
    · rw [readInside_cons, Level.argument_name hl ho, Except.bind, readInside_cons, Level.argument_pending hl hp]
      cases hm : l.put p.1 p.2 with
      | error e =>
        obtain ⟨why, rfl⟩ := Level.misuse_of_put hm
        exact ⟨why, rfl⟩
      | ok m =>
        refine ih (Level.isOpen_of_put hl hm) (fun q hq => hplace q (List.mem_cons_of_mem _ hq)) fun h => hnot ?_
        exact List.forall_mem_cons.2 ⟨hp, h⟩
    · exact readInside_not_alone hl ho hp _

theorem read_text (c : CommandName) (args : List String) :
    read (c.text :: args) = (readInside c {} args).bind fun inner => .ok (assemble c {} inner) :=
  readOutside_text rfl rfl c args

/-- Behind a command it makes no difference whether values are attached, if they stand alone. -/
theorem read_apart {values : List (Valued × String)} (hplace : ∀ p ∈ values, p.1 ∈ (Place.inside c).valued)
    (halone : ∀ p ∈ values, StandsAlone p.2) : read (c.text :: apart values) = read (c.text :: attached values) := by
  rw [read_text, readInside_apart ⟨rfl, rfl⟩ hplace halone, ← read_text]

/-- And if one does not, only attached values are read. -/
theorem misuse_of_read_apart {values : List (Valued × String)} (hplace : ∀ p ∈ values, p.1 ∈ (Place.inside c).valued)
    (hnot : ¬∀ p ∈ values, StandsAlone p.2) : ∃ why, read (c.text :: apart values) = .error (.misuse why) := by
  obtain ⟨why, h⟩ := misuse_of_apart (l := {}) ⟨rfl, rfl⟩ hplace hnot
  exact ⟨why, by rw [read_text, h]; rfl⟩

/-! ## Records -/

/-- Of the numbers only the negative ones look like options. -/
theorem standsAlone_timestampText {t : Int64} : StandsAlone (timestampText t) ↔ 0 ≤ t.toInt := by
  unfold StandsAlone timestampText Numeral.signedDecimal
  rw [String.toList_ofList]
  by_cases hneg : t.toInt < 0
  · have hlong : String.ofList ('-' :: Numeral.decimal t.toInt.natAbs) ≠ "-" := by
      intro h
      have hdigits : '-' :: Numeral.decimal t.toInt.natAbs = ['-'] := by rw [← String.toList_ofList (l := _ :: _), h]; rfl
      exact Nat.toDigits_ne_nil (List.cons.inj hdigits).2
    rw [if_pos hneg]
    exact ⟨fun h => absurd (h rfl) hlong, fun h => by omega⟩
  · rw [if_neg hneg]
    refine ⟨fun _ => by omega, fun _ h => ?_⟩
    exact absurd (Numeral.isDigit_of_mem_decimal (List.mem_of_mem_head? h)) (by decide)

/-- What the options of a record ask for. -/
def recordWords (query user : String) (t : Int64) : List (Valued × String) :=
  [(.query, query), (.user, user), (.timestamp, timestampText t)]

theorem spells_recordWords (query user : String) (t : Int64) :
    Spells ((recordWords query user t).map fun p => .value p.1 p.2)
      ⟨.write ⟨query, user, some t⟩, none, fun _ => none, none, false, false⟩ where
  once := by simp [recordWords, Word.option]
  sound w hw := by
    simp only [recordWords, List.map_cons, List.map_nil, List.mem_cons, List.not_mem_nil, or_false] at hw
    rcases hw with rfl | rfl | rfl
    all_goals rfl
  complete w hw := by
    have hsaid {k : OptionName} (hk : k ∈ ((recordWords query user t).map fun p => .value p.1 p.2).map Word.option) :=
      List.mem_map.1 hk
    cases w with
    | switch s form => cases s <;> cases hw
    | value o s => cases o with
      | query => exact .inr (hsaid (by simp [recordWords, Word.option]))
      | user => exact .inr (hsaid (by simp [recordWords, Word.option]))
      | timestamp => exact .inr (hsaid (by simp [recordWords, Word.option]))
      | _ => cases hw

/-- A record is read from its values attached to their options, whatever they are. With the values behind their options
it is read as the same record exactly if every value stands alone, and is refused otherwise. -/
theorem read_record (query user : String) (t : Int64) :
    let joined := ["write", "--query=" ++ query, "--user=" ++ user, "--timestamp=" ++ timestampText t]
    let parted := ["write", "--query", query, "--user", user, "--timestamp", timestampText t]
    let asked : Invocation := ⟨.write ⟨query, user, some t⟩, none, fun _ => none, none, false, false⟩
    read joined = .ok asked ∧
    (read parted = .ok asked ↔ StandsAlone query ∧ StandsAlone user ∧ 0 ≤ t.toInt) ∧
    ((∃ why, read parted = .error (.misuse why)) ↔ ¬(StandsAlone query ∧ StandsAlone user ∧ 0 ≤ t.toInt)) := by
  intro joined parted asked
  have hjoined : read joined = .ok asked :=
    read_of_spelling (by simp [asked]) (@Spelling.words asked [] _ (spells_recordWords query user t) nofun)
  have hplace : ∀ p ∈ recordWords query user t, p.1 ∈ (Place.inside .write).valued := by
    simp only [recordWords, List.forall_mem_cons]
    exact ⟨by decide, by decide, by decide, nofun⟩
  have halone : (∀ p ∈ recordWords query user t, StandsAlone p.2) ↔
      StandsAlone query ∧ StandsAlone user ∧ 0 ≤ t.toInt := by
    simp [recordWords, standsAlone_timestampText]
  rw [← halone]
  by_cases h : ∀ p ∈ recordWords query user t, StandsAlone p.2
  · have hparted : read parted = .ok asked := (read_apart (c := .write) hplace h).trans hjoined
    refine ⟨hjoined, iff_of_true hparted h, iff_of_false ?_ (not_not_intro h)⟩
    rintro ⟨why, hwhy⟩
    rw [hparted] at hwhy
    cases hwhy
  · obtain ⟨why, hparted⟩ : ∃ why, read parted = .error (.misuse why) := misuse_of_read_apart (c := .write) hplace h
    refine ⟨hjoined, iff_of_false ?_ h, iff_of_true ⟨why, hparted⟩ h⟩
    rw [hparted]
    nofun

/-- A query that begins with a comment is refused. -/
theorem read_record_comment :
    read ["write", "--query", "-- all\nselect 1", "--user", "alice", "--timestamp", "5"] =
      .error (.misuse .unknownArgument) := rfl

end QueryAudit.CommandLine
