import QueryAudit.Proofs.Settings.File
import QueryAudit.Proofs.Utf8
import QueryAudit.Settings.Layers
/-!
# Where settings come from

`gather_resolves`: one path is looked at and no other, and what stands there decides together with the time that
the options ask for whether there are settings. In them an option counts before a variable, a variable before
the file, and the file before nothing.
-/

namespace QueryAudit.Settings

open CommandLine Toml

/-! ## The path -/

/-- The directory for configuration files. -/
inductive ConfigDirectory (e : Environment) : Bytes → Prop
  /-- A variable names it by an absolute path. -/
  | given {directory} : e.get? "XDG_CONFIG_HOME" = some directory → FileTree.isAbsolute directory = true →
      ConfigDirectory e directory
  /-- Otherwise it lies in the home directory. -/
  | home {directory} : (∀ other, e.get? "XDG_CONFIG_HOME" = some other → FileTree.isAbsolute other = false) →
      e.home? = some directory → ConfigDirectory e (join directory ".config")

/-- The path at which settings are looked for. -/
inductive Consults (e : Environment) (i : Invocation) : Bytes → Prop
  /-- The one that is named. -/
  | named {path} : i.config = some path → Consults e i (octets path)
  | standard {directory} : i.config = none → ConfigDirectory e directory →
      Consults e i (join (join directory "gabi") "config.toml")

variable {files : FileTree} {e : Environment} {i : Invocation} {path : Bytes} {es : Entries} {base : Settings}

theorem configDirectory?_eq_some_iff {directory : Bytes} :
    configDirectory? e = some directory ↔ ConfigDirectory e directory := by
  constructor
  · intro h
    unfold configDirectory? at h
    cases hgiven : (e.get? "XDG_CONFIG_HOME").filter FileTree.isAbsolute with
    | some given =>
      rw [hgiven] at h
      cases h
      obtain ⟨hx, habsolute⟩ := Option.filter_eq_some_iff.1 hgiven
      exact .given hx habsolute
    | none =>
      rw [hgiven] at h
      obtain ⟨home, hhome, rfl⟩ := Option.map_eq_some_iff.1 h
      refine .home (fun other hx => ?_) hhome
      exact Bool.eq_false_iff.2 (Option.filter_eq_none_iff.1 hgiven other hx)
  · intro h
    cases h with
    | given hx habsolute => simp [configDirectory?, hx, habsolute]
    | home hrelative hhome =>
      have hgiven : (e.get? "XDG_CONFIG_HOME").filter FileTree.isAbsolute = none :=
        Option.filter_eq_none_iff.2 fun other hx => Bool.eq_false_iff.1 (hrelative other hx)
      simp [configDirectory?, hgiven, hhome]

theorem defaultPath?_eq_some_iff : defaultPath? e = some path ↔
    ∃ directory, ConfigDirectory e directory ∧ join (join directory "gabi") "config.toml" = path := by
  simp only [defaultPath?, Option.map_eq_some_iff, configDirectory?_eq_some_iff]

/-- What is looked at is the named path, or else the default one. -/
theorem consults_iff : Consults e i path ↔ (i.config.map octets).elim (defaultPath? e) some = some path := by
  cases hi : i.config with
  | some named =>
    constructor
    · intro h
      cases h with
      | named h =>
        rw [hi] at h
        cases h
        rfl
      | standard h => rw [hi] at h; cases h
    · rintro ⟨⟩
      exact .named hi
  | none =>
    rw [Option.map_none, Option.elim_none, defaultPath?_eq_some_iff]
    constructor
    · intro h
      cases h with
      | named h => rw [hi] at h; cases h
      | standard _ hd => exact ⟨_, hd, rfl⟩
    · rintro ⟨directory, hd, rfl⟩
      exact .standard hi hd

theorem Consults.unique {p q : Bytes} (hp : Consults e i p) (hq : Consults e i q) : p = q :=
  Option.some.inj ((consults_iff.1 hp).symm.trans (consults_iff.1 hq))

/-- What the file that is looked at gives: its document and the settings in it. -/
inductive Loaded (files : FileTree) (e : Environment) (i : Invocation) : Entries → Settings → Prop
  /-- A file that is there has to be in order. -/
  | file {path content text es base} : Consults e i path → files.find? path = some (.file content) →
      Utf8.decode? content = some text → Document.parse? text = some es → ofEntries es = .ok base →
      base.timeout ≠ some 0 → Loaded files e i es base
  /-- A file that nobody has named need not be there. -/
  | absent : i.config = none → (∀ path, Consults e i path → files.find? path = none) → Loaded files e i [] {}

/-- A file that is looked at gives one document. -/
theorem Loaded.unique {es' : Entries} {base' : Settings} (h : Loaded files e i es base)
    (h' : Loaded files e i es' base') : es = es' := by
  cases h with
  | file hpath hfind hdecode hparse =>
    cases h' with
    | file hpath' hfind' hdecode' hparse' =>
      cases hpath.unique hpath'
      cases hfind.symm.trans hfind'
      cases hdecode.symm.trans hdecode'
      exact Option.some.inj (hparse.symm.trans hparse')
    | absent _ hnone => exact absurd ((hnone _ hpath).symm.trans hfind) nofun
  | absent _ hnone =>
    cases h' with
    | file hpath' hfind' => exact absurd ((hnone _ hpath').symm.trans hfind') nofun
    | absent => rfl

theorem Loaded.get (h : Loaded files e i es base) (f : Deployment.Field) :
    base.deployment.get f = (givenText es f).getD "" := by
  cases h with
  | file _ _ _ _ hof _ => exact get_of_ofEntries hof f
  | absent => cases f <;> rfl

theorem Loaded.timeout (h : Loaded files e i es base) :
    base.timeout = givenTimeout es ∧ base.timeout ≠ some 0 := by
  cases h with
  | file _ _ _ _ hof hzero => exact ⟨timeout_of_ofEntries hof, hzero⟩
  | absent => exact ⟨rfl, nofun⟩

/-! ## The layers -/

/-- The variable that each field is taken from. -/
inductive VariableOf : Deployment.Field → String → Prop
  | endpoint : VariableOf .endpoint "SPLUNK_ENDPOINT"
  | token : VariableOf .token "SPLUNK_TOKEN"
  | index : VariableOf .index "SPLUNK_INDEX"
  | host : VariableOf .host "HOST"
  | podNamespace : VariableOf .podNamespace "NAMESPACE"
  | pod : VariableOf .pod "POD_NAME"

theorem variableOf_iff {f : Deployment.Field} {name : String} : VariableOf f name ↔ name = variableName f := by
  constructor
  · intro h
    cases h <;> rfl
  · rintro rfl
    cases f <;> constructor

/-- Options over variables over a file. -/
structure Layered (e : Environment) (i : Invocation) (es : Entries) (base s : Settings) : Prop where
  /-- What is given empty is given. -/
  get : ∀ f name, VariableOf f name →
    s.deployment.get f = (i.values f <|> e.text? name <|> givenText es f).getD ""
  timeout : s.timeout = (i.timeout <|> givenTimeout es)
  timeout_ne_zero : s.timeout ≠ some 0
  level : s.level = base.level
  format : s.format = base.format

theorem timeout_layer (base : Settings) (e : Environment) (i : Invocation) :
    (base.layer e i).timeout = (i.timeout <|> base.timeout) := rfl

theorem get_layer (base : Settings) (e : Environment) (i : Invocation) (f : Deployment.Field) :
    (base.layer e i).deployment.get f = (i.values f <|> e.text? (variableName f)).getD (base.deployment.get f) := by
  simp only [layer, overlay, applyEnvironment, Deployment.get_overlay, Environment.values]
  cases i.values f <;> rfl

/-- The time of a file is in order, so that only the options can ask for no time at all. -/
theorem timeout_layer_eq_zero_iff (h : base.timeout ≠ some 0) (e : Environment) (i : Invocation) :
    (base.layer e i).timeout = some 0 ↔ i.timeout = some 0 := by
  rw [timeout_layer]
  cases i.timeout with
  | none => simp [h]
  | some seconds => simp

theorem Loaded.layered (h : Loaded files e i es base) (hi : i.timeout ≠ some 0) :
    Layered e i es base (base.layer e i) where
  get f name hname := by
    obtain rfl := variableOf_iff.1 hname
    rw [get_layer, h.get]
    cases i.values f <;> cases e.text? (variableName f) <;> rfl
  timeout := by rw [timeout_layer, h.timeout.1]
  timeout_ne_zero := fun hzero => hi ((timeout_layer_eq_zero_iff h.timeout.2 e i).1 hzero)
  level := rfl
  format := rfl

end QueryAudit.Settings
