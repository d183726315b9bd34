import Mathlib.Data.List.Induction
import QueryAudit.Proofs.Settings.File
import QueryAudit.Settings.Layers
/-!
# Settings step by step

`run_overlaid`: after any steps, the settings are those of the last start with what the steps since then have
laid over them, the later one first. A step that fails leaves no trace, and no start asks for no time, so that
settings are refused only if somebody has asked for that since.
-/

namespace QueryAudit.Settings

/-- The fields that a step gives. Variables give each one under a name of its own. -/
def Step.gives : Step → Values
  | .environment vars, .endpoint => vars.text? "SPLUNK_ENDPOINT"
  | .environment vars, .token => vars.text? "SPLUNK_TOKEN"
  | .environment vars, .index => vars.text? "SPLUNK_INDEX"
  | .environment vars, .host => vars.text? "HOST"
  | .environment vars, .podNamespace => vars.text? "NAMESPACE"
  | .environment vars, .pod => vars.text? "POD_NAME"
  | .values given, f => given f
  | .reset, _ | .load _, _ | .resolve _, _ | .timeout _, _ | .validate, _ => none

/-- The time that a step says to wait, if it says anything about it. -/
def Step.says? : Step → Option (Option UInt64)
  | .timeout seconds => some seconds
  | .reset | .load _ | .resolve _ | .environment _ | .values _ | .validate => none

/-- A step that lays fields over the settings. -/
inductive Step.Overlays : Step → Prop
  | environment {vars} : Overlays (.environment vars)
  | values {given} : Overlays (.values given)

/-- The value that the last of some steps gives a field, if any does. -/
def lastGiven (steps : List Step) (f : Deployment.Field) : Option String := steps.reverse.findSome? (·.gives f)

/-- The time that the last of some steps says to wait, if any does. -/
def lastSaid (steps : List Step) : Option (Option UInt64) := steps.reverse.findSome? Step.says?

/-- The settings after steps that have laid something over others. -/
structure Overlaid (steps : List Step) (base s : Settings) : Prop where
  get : ∀ f, s.deployment.get f = (lastGiven steps f).getD (base.deployment.get f)
  timeout : s.timeout = (lastSaid steps).getD base.timeout
  level : s.level = base.level
  format : s.format = base.format

section steps

variable (files : FileTree) (e : Environment)

/-- The settings after a step: as before if it fails. -/
def proceed (s : Settings) (st : Step) : Settings :=
  match step files e s st with
  | .ok next => next
  | .error _ => s

/-- The settings after steps that begin with the defaults. -/
def after (steps : List Step) : Settings := steps.foldl (proceed files e) {}

/-- A step starts over, and these are the settings that it comes to. -/
inductive Starts : Step → Settings → Prop
  | reset : Starts .reset {}
  | load {path s} : load files path = .ok s → Starts (.load path) s
  | resolve {path s} : resolve files e path = .ok s → Starts (.resolve path) s

/-- A step settles how long to wait. -/
inductive SetsTimeout : Step → Option UInt64 → Prop
  | said {seconds} : SetsTimeout (.timeout seconds) seconds
  | start {st s} : Starts files e st s → SetsTimeout st s.timeout

/-- The settings of the last start among some steps, and the steps since then. -/
inductive Since : List Step → Settings → List Step → Prop
  | beginning {steps} : (∀ st ∈ steps, ∀ s, ¬Starts files e st s) → Since steps {} steps
  | start {before st s later} : Starts files e st s → (∀ st' ∈ later, ∀ s', ¬Starts files e st' s') →
      Since (before ++ st :: later) s later

end steps

variable {files : FileTree} {e : Environment} {s base : Settings} {st : Step} {steps later : List Step}

/-! ## One step -/

theorem Step.gives_environment (vars : Environment) : (Step.environment vars).gives = vars.values := by
  funext f
  cases f <;> rfl

theorem load_or_default_of_resolve {path : Option Bytes} (h : resolve files e path = .ok s) :
    (∃ p, Settings.load files p = .ok s) ∨ s = {} := by
  unfold resolve at h
  split at h
  · exact .inl ⟨_, h⟩
  split at h
  · split at h
    · exact .inl ⟨_, h⟩
    · cases h
      exact .inr rfl
  · cases h
    exact .inr rfl

/-- No start asks for no time. -/
theorem Starts.timeout_ne_zero (h : Starts files e st s) : s.timeout ≠ some 0 := by
  have loaded {path : Bytes} (h : Settings.load files path = .ok s) : s.timeout ≠ some 0 := by
    obtain ⟨-, -, -, -, -, -, -, hzero⟩ := load_eq_ok_iff.1 h
    exact hzero
  cases h with
  | reset => nofun
  | load h => exact loaded h
  | resolve h =>
    rcases load_or_default_of_resolve h with ⟨_, h⟩ | rfl
    · exact loaded h
    · nofun

theorem Starts.proceed (h : Starts files e st base) (s : Settings) : proceed files e s st = base := by
  cases h with
  | reset => rfl
  | load h => simp only [Settings.proceed, step, h]
  | resolve h => simp only [Settings.proceed, step, h]

theorem proceed_of_error {failure : Failure} (h : step files e s st = .error failure) : proceed files e s st = s := by
  rw [proceed, h]

theorem proceed_validate (s : Settings) : proceed files e s .validate = s := by
  by_cases hzero : s.timeout = some 0
  · simp [proceed, step, validate_eq, hzero, Except.map]
  · simp [proceed, step, validate_eq, hzero, Except.map]

/-- What a step does that does not start over. -/
theorem overlaid_proceed (h : ∀ b, ¬Starts files e st b) (s : Settings) :
    Overlaid [st] s (proceed files e s st) := by
  have same {next : Settings} (hnext : next = s) (hgives : st.gives = fun _ => none) (hsaid : st.says? = none) :
      Overlaid [st] s next := by
    subst hnext
    exact ⟨fun f => by simp [lastGiven, hgives], by simp [lastSaid, hsaid], rfl, rfl⟩
  cases st with
  | reset => exact absurd .reset (h {})
  | load path =>
    cases hload : Settings.load files path with
    | ok b => exact absurd (.load hload) (h b)
    | error failure => exact same (proceed_of_error hload) rfl rfl
  | resolve path =>
    cases hresolve : Settings.resolve files e path with
    | ok b => exact absurd (.resolve hresolve) (h b)
    | error failure => exact same (proceed_of_error hresolve) rfl rfl
  | environment vars =>
    exact ⟨fun f => by simp [proceed, step, applyEnvironment, overlay, lastGiven, Step.gives_environment],
      rfl, rfl, rfl⟩
  | values given => exact ⟨fun f => by simp [proceed, step, overlay, lastGiven, Step.gives], rfl, rfl, rfl⟩
  | timeout seconds => exact ⟨fun f => rfl, rfl, rfl, rfl⟩
  | validate => exact same (proceed_validate s) rfl rfl

/-! ## Many steps -/

theorem lastGiven_cons (st : Step) (steps : List Step) (f : Deployment.Field) :
    lastGiven (st :: steps) f = (lastGiven steps f <|> st.gives f) := by
  simp [lastGiven, List.findSome?_append]

theorem lastGiven_nil (f : Deployment.Field) : lastGiven [] f = none := rfl

theorem lastSaid_cons (st : Step) (steps : List Step) : lastSaid (st :: steps) = (lastSaid steps <|> st.says?) := by
  simp [lastSaid, List.findSome?_append]

theorem Overlaid.cons {t u : Settings} (h : Overlaid [st] s t) (h' : Overlaid steps t u) :
    Overlaid (st :: steps) s u where
  get f := by
    rw [h'.get, h.get, lastGiven_cons, lastGiven_cons]
    cases lastGiven steps f <;> rfl
  timeout := by
    rw [h'.timeout, h.timeout, lastSaid_cons, lastSaid_cons]
    cases lastSaid steps <;> rfl
  level := h'.level.trans h.level
  format := h'.format.trans h.format

theorem overlaid_foldl (h : ∀ st ∈ steps, ∀ b, ¬Starts files e st b) (s : Settings) :
    Overlaid steps s (steps.foldl (proceed files e) s) := by
  induction steps generalizing s with
  | nil => exact ⟨fun f => rfl, rfl, rfl, rfl⟩
  | cons st steps ih =>
    obtain ⟨hst, hsteps⟩ := List.forall_mem_cons.1 h
    exact (overlaid_proceed hst s).cons (ih hsteps _)

/-- Steps that give the same come to the same. -/
theorem Overlaid.eq_of_gives {steps' : List Step} {t : Settings} (h : Overlaid steps base s)
    (h' : Overlaid steps' base t) (hgiven : ∀ f, lastGiven steps f = lastGiven steps' f)
    (hsaid : lastSaid steps = lastSaid steps') : s = t := by
  have hdeployment : s.deployment = t.deployment :=
    Deployment.ext_get fun f => by rw [h.get, hgiven, h'.get]
  have htimeout : s.timeout = t.timeout := by rw [h.timeout, hsaid, h'.timeout]
  have hlevel := h.level.trans h'.level.symm
  have hformat := h.format.trans h'.format.symm
  cases s
  cases t
  simp_all

theorem run_append (s : Settings) (before behind : List Step) : run files e s (before ++ behind) =
    run files e s before ++ run files e (before.foldl (proceed files e) s) behind := by
  induction before generalizing s with
  | nil => rfl
  | cons st before ih =>
    rw [List.cons_append, List.foldl_cons, proceed, run, run]
    cases step files e s st <;> simp only [ih, List.cons_append]

theorem after_append (before behind : List Step) :
    after files e (before ++ behind) = behind.foldl (proceed files e) (after files e before) := List.foldl_append

theorem after_concat (steps : List Step) (st : Step) :
    after files e (steps ++ [st]) = proceed files e (after files e steps) st := after_append steps [st]

/-! ## The last start -/

theorem since_exists (steps : List Step) : ∃ base later, Since files e steps base later := by
  induction steps using List.reverseRecOn with
  | nil => exact ⟨{}, [], .beginning nofun⟩
  | append_singleton steps st ih =>
    by_cases hst : ∃ b, Starts files e st b
    · obtain ⟨b, hb⟩ := hst
      exact ⟨b, [], .start hb nofun⟩
    · have hnone : ∀ st' ∈ [st], ∀ b, ¬Starts files e st' b :=
        List.forall_mem_singleton.2 fun b hb => hst ⟨b, hb⟩
      obtain ⟨base, later, h⟩ := ih
      cases h with
      | beginning h => exact ⟨{}, _, .beginning (List.forall_mem_append.2 ⟨h, hnone⟩)⟩
      | start hb h =>
        rw [List.append_assoc, List.cons_append]
        exact ⟨base, later ++ [st], .start hb (List.forall_mem_append.2 ⟨h, hnone⟩)⟩

theorem Since.overlaid (h : Since files e steps base later) : Overlaid later base (after files e steps) := by
  cases h with
  | beginning h => exact overlaid_foldl h {}
  | start hb h =>
    rw [after_append, List.foldl_cons, hb.proceed]
    exact overlaid_foldl h base

/-! ## Fields laid over the settings -/

namespace Step.Overlays

variable {st' : Step}

theorem not_starts (h : st.Overlays) (b : Settings) : ¬Starts files e st b := by
  cases h <;> nofun

theorem says?_eq_none (h : st.Overlays) : st.says? = none := by
  cases h <;> rfl

theorem overlaid (h : st.Overlays) (s : Settings) : Overlaid [st] s (proceed files e s st) :=
  overlaid_proceed h.not_starts s

/-- Nothing is said about the time. -/
theorem lastSaid_eq_none (h : ∀ st ∈ steps, st.Overlays) : lastSaid steps = none :=
  List.findSome?_eq_none_iff.2 fun st hst => (h st (List.mem_reverse.1 hst)).says?_eq_none

theorem proceed_comm (h : st.Overlays) (h' : st'.Overlays) (hapart : ∀ f, st.gives f = none ∨ st'.gives f = none)
    (s : Settings) : proceed files e (proceed files e s st) st' = proceed files e (proceed files e s st') st := by
  refine ((h.overlaid s).cons (h'.overlaid _)).eq_of_gives ((h'.overlaid s).cons (h.overlaid _)) (fun f => ?_) ?_
  · simp only [lastGiven_cons, lastGiven_nil]
    rcases hapart f with hf | hf
    · simp [hf]
    · simp [hf]
  · rw [lastSaid_eq_none (by simp [h, h']), lastSaid_eq_none (by simp [h, h'])]

theorem proceed_self (h : st.Overlays) (s : Settings) :
    proceed files e (proceed files e s st) st = proceed files e s st := by
  refine ((h.overlaid s).cons (h.overlaid _)).eq_of_gives (h.overlaid s) (fun f => ?_) ?_
  · simp only [lastGiven_cons, lastGiven_nil]
    cases st.gives f <;> rfl
  · rw [lastSaid_eq_none (by simp [h]), lastSaid_eq_none (by simp [h])]

end Step.Overlays

/-! ## The time to wait -/

theorem SetsTimeout.timeout_proceed {seconds : Option UInt64} (h : SetsTimeout files e st seconds) (s : Settings) :
    (proceed files e s st).timeout = seconds := by
  cases h with
  | said => rfl
  | start h => rw [h.proceed]

/-- Without a start and without a word about it the time stays. -/
theorem timeout_foldl (h : ∀ st ∈ steps, ∀ seconds, ¬SetsTimeout files e st seconds) (s : Settings) :
    (steps.foldl (proceed files e) s).timeout = s.timeout := by
  have hsaid : lastSaid steps = none := by
    refine List.findSome?_eq_none_iff.2 fun st hst => ?_
    have hst := h st (List.mem_reverse.1 hst)
    cases st with
    | timeout seconds => exact absurd .said (hst seconds)
    | reset | load _ | resolve _ | environment _ | values _ | validate => rfl
  rw [(overlaid_foldl (fun st hst b hb => h st hst _ (.start hb)) s).timeout, hsaid, Option.getD_none]

/-- There is no time to wait exactly if that was asked for and nothing has settled the time since. -/
theorem timeout_after_eq_zero_iff : (after files e steps).timeout = some 0 ↔
    ∃ before later, steps = before ++ .timeout (some 0) :: later ∧
      ∀ st ∈ later, ∀ seconds, ¬SetsTimeout files e st seconds := by
  constructor
  · intro h
    induction steps using List.reverseRecOn with
    | nil => cases h
    | append_singleton steps st ih =>
      rw [after_concat] at h
      by_cases hst : ∃ seconds, SetsTimeout files e st seconds
      · obtain ⟨seconds, hst⟩ := hst
        rw [hst.timeout_proceed] at h
        cases hst with
        | said => exact ⟨steps, [], by rw [h], nofun⟩
        | start hb => exact absurd h hb.timeout_ne_zero
      · have hnone : ∀ st' ∈ [st], ∀ seconds, ¬SetsTimeout files e st' seconds :=
          List.forall_mem_singleton.2 fun seconds hs => hst ⟨seconds, hs⟩
        obtain ⟨before, later, rfl, hlater⟩ := ih ((timeout_foldl hnone _).symm.trans h)
        exact ⟨before, later ++ [st], by simp, List.forall_mem_append.2 ⟨hlater, hnone⟩⟩
  · rintro ⟨before, later, rfl, hlater⟩
    rw [after_append, List.foldl_cons, timeout_foldl hlater]
    rfl

theorem validate_fails_iff : (∃ failure, step files e s .validate = .error failure) ↔ s.timeout = some 0 := by
  by_cases hzero : s.timeout = some 0
  · simp [step, validate_eq, hzero, Except.map]
  · simp [step, validate_eq, hzero, Except.map]

/-! ## Runs -/

/-- The whole of what steps come to that begin with the defaults. The settings after them are those that the next
steps go on with, and a step that fails leaves them as they were. They are the settings of the last start with what
has been laid over them since: each field has the value that was given last, or else that of the start. Steps that
give fields have no part in anything else, so that two of them may change places if they give different fields,
and doing one twice changes nothing. No start asks for no time; so settings are refused exactly if that was asked
for after it and is what was said last. -/
theorem run_overlaid (files : FileTree) (e : Environment) (steps : List Step) :
    let now := after files e steps
    (∀ more, run files e {} (steps ++ more) = run files e {} steps ++ run files e now more) ∧
    (∀ st failure, step files e now st = .error failure → after files e (steps ++ [st]) = now) ∧
    (∃ base later, Since files e steps base later) ∧
    (∀ base later, Since files e steps base later → Overlaid later base now) ∧
    (∀ st : Step, st.Overlays → (after files e (steps ++ [st])).timeout = now.timeout ∧
      (after files e (steps ++ [st])).level = now.level ∧ (after files e (steps ++ [st])).format = now.format) ∧
    (∀ (st st' : Step) more, st.Overlays → st'.Overlays → (∀ f, st.gives f = none ∨ st'.gives f = none) →
      after files e (steps ++ st :: st' :: more) = after files e (steps ++ st' :: st :: more)) ∧
    (∀ (st : Step) more, st.Overlays →
      after files e (steps ++ st :: st :: more) = after files e (steps ++ st :: more)) ∧
    (∀ st base, Starts files e st base → base.timeout ≠ some 0) ∧
    ((∃ failure, step files e now .validate = .error failure) ↔
      ∃ before later, steps = before ++ .timeout (some 0) :: later ∧
        ∀ st ∈ later, ∀ seconds, ¬SetsTimeout files e st seconds) := by
  intro now
  refine ⟨run_append {} steps, fun st failure h => ?_, since_exists steps, fun base later => Since.overlaid,
    fun st h => ?_, fun st st' more h h' hapart => ?_, fun st more h => ?_, fun st base => Starts.timeout_ne_zero,
    validate_fails_iff.trans timeout_after_eq_zero_iff⟩
  · rw [after_concat, proceed_of_error h]
  · have hover : Overlaid [st] now (proceed files e now st) := h.overlaid now
    rw [after_concat]
    exact ⟨by rw [hover.timeout, Step.Overlays.lastSaid_eq_none (by simp [h]), Option.getD_none], hover.level,
      hover.format⟩
  · simp only [after_append, List.foldl_cons, h.proceed_comm h' hapart]
  · simp only [after_append, List.foldl_cons, h.proceed_self]

/-- Variables over fields that were given before, and no time to wait. -/
theorem run_overlaid_variables :
    let vars : Environment := ⟨[("HOST", octets "b"), ("SPLUNK_INDEX", []), ("POD_NAME", [0xFF])], none⟩
    let steps : List Step := [.values fun _ => some "a", .environment vars, .timeout (some 0)]
    let now := after ⟨[], none⟩ ⟨[], none⟩ steps
    now.deployment.host = "b" ∧ now.deployment.index = "" ∧ now.deployment.pod = "a" ∧ now.timeout = some 0 ∧
      ∃ failure, step ⟨[], none⟩ ⟨[], none⟩ now .validate = .error failure := by
  intro vars steps now
  obtain ⟨-, -, -, hoverlaid, -, -, -, -, hvalidate⟩ := run_overlaid ⟨[], none⟩ ⟨[], none⟩ steps
  have hsince : Since ⟨[], none⟩ ⟨[], none⟩ steps {} steps := by
    refine .beginning fun st hst b hb => ?_
    cases hb <;> simp [steps] at hst
  have hnow := hoverlaid _ _ hsince
  have hhost : lastGiven steps .host = some "b" := by decide +kernel
  have hindex : lastGiven steps .index = some "" := by decide +kernel
  have hpod : lastGiven steps .pod = some "a" := by decide +kernel
  refine ⟨?_, ?_, ?_, hnow.timeout, hvalidate.2 ⟨steps.take 2, [], rfl, nofun⟩⟩
  · exact (hnow.get .host).trans (by rw [hhost]; rfl)
  · exact (hnow.get .index).trans (by rw [hindex]; rfl)
  · exact (hnow.get .pod).trans (by rw [hpod]; rfl)

end QueryAudit.Settings
