import QueryAudit.Sink
/-!
# Sinks remember settings and nothing else

`run_history`: whatever is done with a sink and its copies, each of them is what the settings along its own
line make of the first deployment. A write leaves no trace, and what it answers is what a new sink for the
same deployment would answer.
-/

namespace QueryAudit

/-- The fields that a setting replaces. -/
def Setting.assigns : Setting → Values
  | .index name => fun f => if f = .index then some name else none
  | .values given => given
  | .client | .nothing => fun _ => none

/-- The value that the last of some settings gives to a field, if any does. -/
def lastAssigned (settings : List Setting) (f : Deployment.Field) : Option String :=
  settings.reverse.findSome? (·.assigns f)

namespace Sink

/-! ## Settings -/

@[simp] theorem get_apply (s : Sink) (setting : Setting) (f : Deployment.Field) :
    (s.apply setting).deployment.get f = (setting.assigns f).getD (s.deployment.get f) := by
  cases setting with
  | index name =>
    by_cases hf : f = .index
    · simp [apply, Setting.assigns, hf]
    · simp [apply, Setting.assigns, hf]
  | client => rfl
  | values values => simp [apply, Setting.assigns]
  | nothing => rfl

theorem client_apply (s : Sink) (setting : Setting) :
    (s.apply setting).client = .custom ↔ s.client = .custom ∨ setting = .client := by
  cases setting <;> simp [apply]

/-- A field holds the value that was assigned last. -/
theorem get_foldl_apply (s : Sink) (settings : List Setting) (f : Deployment.Field) :
    (settings.foldl apply s).deployment.get f = (lastAssigned settings f).getD (s.deployment.get f) := by
  induction settings generalizing s with
  | nil => rfl
  | cons setting settings ih =>
    rw [List.foldl_cons, ih, get_apply]
    simp only [lastAssigned, List.reverse_cons, List.findSome?_append, List.findSome?_singleton]
    cases settings.reverse.findSome? (·.assigns f) <;> rfl

theorem client_foldl_apply (s : Sink) (settings : List Setting) :
    (settings.foldl apply s).client = .custom ↔ s.client = .custom ∨ .client ∈ settings := by
  induction settings generalizing s with
  | nil => simp
  | cons setting settings ih =>
    rw [List.foldl_cons, ih, client_apply, List.mem_cons, or_assoc]
    simp only [eq_comm]

/-- The client has no part in a write. -/
theorem write_client (s : Sink) (client : Client) (r : Record) (c : Collector) :
    Sink.write { s with client } r c = s.write r c := rfl

theorem make_append (d : Deployment) (client : Client) (settings more : List Setting) :
    make d client (settings ++ more) = more.foldl apply (make d client settings) := by
  rw [make, List.foldl_append, make]

/-! ## Lines of copies -/

/-- How many sinks there are after steps, of which the last is named first: one at the beginning, and one
more for every copy. -/
def count : List Step → Nat
  | [] => 1
  | .clone _ :: past => count past + 1
  | .apply .. :: past | .write .. :: past => count past

/-- The settings along the line of the sink at a place, found by looking back: the last step is named
first. A copy has the line of what it was made from up to that moment, and its own from then on. -/
def line : List Step → Nat → List Setting
  | [], _ => []
  | .clone n :: past, i => line past (if i = count past then min n (count past - 1) else i)
  | .apply n setting :: past, i =>
    if i = min n (count past - 1) then line past i ++ [setting] else line past i
  | .write .. :: past, i => line past i

/-- A step that gives a setting to the sink at a place. -/
def Addresses (sinks : List Sink) (i : Nat) : Step → Prop
  | .apply n _ => placeOf sinks n = i
  | .clone _ | .write .. => False

theorem count_pos (past : List Step) : 0 < count past := by
  induction past with
  | nil => exact Nat.one_pos
  | cons st past ih => cases st <;> simp only [count] <;> omega

/-- A step leaves every sink as it was to which it does not give a setting. -/
theorem getElem?_step {sinks : List Sink} {st : Step} {i : Nat} (hi : i < sinks.length)
    (h : ¬Addresses sinks i st) : (step sinks st).1[i]? = sinks[i]? := by
  cases st with
  | clone n =>
    simp only [step]
    split
    · exact List.getElem?_append_left hi
    · rfl
  | apply n setting =>
    simp only [step]
    split
    · exact List.getElem?_set_ne h
    · rfl
  | write n r c =>
    simp only [step]
    split <;> rfl

theorem step_write (sinks : List Sink) (n : Nat) (r : Record) (c : Collector) :
    (step sinks (.write n r c)).1 = sinks := by
  simp only [step]
  split <;> rfl

/-- A client that was given is not lost in a step. -/
theorem custom_step {sinks : List Sink} {s : Sink} {i : Nat} (hs : sinks[i]? = some s) (hc : s.client = .custom)
    (st : Step) : ∃ s', (step sinks st).1[i]? = some s' ∧ s'.client = .custom := by
  have hi := (List.getElem?_eq_some_iff.1 hs).1
  by_cases h : Addresses sinks i st
  · cases st with
    | clone n => exact h.elim
    | apply n setting =>
      obtain rfl : placeOf sinks n = i := h
      refine ⟨s.apply setting, ?_, (client_apply s setting).2 (.inl hc)⟩
      simp only [step, hs]
      exact List.getElem?_set_self hi
    | write n r c => exact h.elim
  · exact ⟨s, (getElem?_step hi h).trans hs, hc⟩

/-! ## Runs -/

theorem run_append (sinks : List Sink) (before after : List Step) : run sinks (before ++ after) =
    ((run (run sinks before).1 after).1, (run sinks before).2 ++ (run (run sinks before).1 after).2) := by
  induction before generalizing sinks with
  | nil => rfl
  | cons st before ih => simp only [List.cons_append, run, ih, List.append_assoc]

theorem run_concat (sinks : List Sink) (steps : List Step) (st : Step) :
    (run sinks (steps ++ [st])).1 = (step (run sinks steps).1 st).1 := by
  rw [run_append]
  rfl

/-- What the settings along its line make of each sink. -/
theorem run_line (s : Sink) (past : List Step) : (run [s] past.reverse).1 =
    (List.range (count past)).map fun i => (line past i).foldl apply s := by
  -- Both sides take the last step first, and every step is made at a place that is there.
  induction past with
  | nil => rfl
  | cons st past ih =>
    have hpos := count_pos past
    have hlength : (run [s] past.reverse).1.length = count past := by simp [ih]
    have hplace (n : Nat) : placeOf (run [s] past.reverse).1 n = min n (count past - 1) := by rw [placeOf, hlength]
    have hlt (n : Nat) : min n (count past - 1) < count past := by omega
    have hget (n : Nat) : (run [s] past.reverse).1[min n (count past - 1)]? =
        some ((line past (min n (count past - 1))).foldl apply s) := by simp [ih, hlt]
    rw [List.reverse_cons, run_concat]
    cases st with
    | clone n =>
      -- The copy is the last sink, with the line of its origin; the others keep theirs.
      simp only [step, hplace, hget, count, line, List.range_succ, List.map_append, List.map_singleton, if_pos]
      rw [ih]
      congr 1
      refine List.map_congr_left fun i hi => ?_
      rw [if_neg (Nat.ne_of_lt (List.mem_range.1 hi))]
    | apply n setting =>
      simp only [step, hplace, hget, count, line]
      rw [ih]
      refine List.ext_getElem (by simp) fun i h1 h2 => ?_
      by_cases hi : i = min n (count past - 1)
      · simp [hi, List.foldl_append]
      · simp [hi, Ne.symm hi]
    | write n r c =>
      rw [step_write, ih]
      rfl

/-- A copy has what its origin had, and what that gets later is its own. -/
example (s : Sink) : (run [s] [.apply 0 (.index "a"), .clone 0, .apply 0 (.index "b")]).1.map (·.deployment.index) =
    ["b", "a"] := rfl

theorem custom_run {sinks : List Sink} {s : Sink} {i : Nat} (hs : sinks[i]? = some s) (hc : s.client = .custom)
    (steps : List Step) : ∃ s', (run sinks steps).1[i]? = some s' ∧ s'.client = .custom := by
  induction steps generalizing sinks s with
  | nil => exact ⟨s, hs, hc⟩
  | cons st steps ih =>
    obtain ⟨s', hs', hc'⟩ := custom_step hs hc st
    exact ih hs' hc'

/-- Settings given one by one come to the same as settings given at once. -/
theorem run_apply (s : Sink) (settings : List Setting) :
    (run [s] (settings.map (.apply 0))).1 = [settings.foldl apply s] := by
  induction settings generalizing s with
  | nil => rfl
  | cons setting settings ih => exact ih (s.apply setting)

/-- The answer to a write is that of a new sink, and the steps behind it find everything as it was before. -/
theorem told_write {sinks : List Sink} {s : Sink} {n : Nat} (hs : sinks[placeOf sinks n]? = some s) (fresh : Client)
    (r : Record) (c : Collector) (rest : List Step) : (run sinks (.write n r c :: rest)).2 =
      (run [make s.deployment fresh []] [.write 0 r c]).2 ++ (run sinks rest).2 := by
  have hold : step sinks (.write n r c) = (sinks, some (.attempt (s.write r c))) := by simp only [step, hs]
  have hnew : step [make s.deployment fresh []] (.write 0 r c) =
      ([make s.deployment fresh []], some (.attempt (s.write r c))) := by
    rw [← write_client s fresh r c]
    rfl
  simp only [run, hold, hnew, List.append_nil]

/-- All that a sink is, if it remembers nothing but settings: each field has the value that was assigned
last, or else its first value, and the client is the caller's exactly if one was ever given. -/
structure Remembers (d : Deployment) (client : Client) (settings : List Setting) (s : Sink) : Prop where
  get : ∀ f, s.deployment.get f = (lastAssigned settings f).getD (d.get f)
  client : s.client = .custom ↔ client = .custom ∨ .client ∈ settings

theorem remembers_foldl (d : Deployment) (client : Client) (settings more : List Setting) :
    Remembers d client (settings ++ more) (more.foldl apply (make d client settings)) := by
  rw [← make_append]
  exact ⟨get_foldl_apply ⟨d, client⟩ _, client_foldl_apply ⟨d, client⟩ _⟩

/-- The whole of what sinks remember, after any steps on a sink and its copies. There is one sink more for
every copy, and each remembers the settings along its own line. A step touches no sink but the one that it
gives a setting to, and a write touches none. A given client stays. Settings at the making are settings one
by one. And a write answers as a new sink with the same deployment does, whoever made that one, and changes
nothing for the steps behind it. -/
theorem run_history (d : Deployment) (client : Client) (settings : List Setting) (steps : List Step) :
    let start := [make d client settings]
    let now := (run start steps).1
    (now.length = count steps.reverse ∧
      ∀ i s, now[i]? = some s → Remembers d client (settings ++ line steps.reverse i) s) ∧
    (∀ i st, i < now.length → ¬Addresses now i st → (step now st).1[i]? = now[i]?) ∧
    (∀ n r c, (step now (.write n r c)).1 = now) ∧
    (∀ (i : Nat) (s : Sink) more, now[i]? = some s → s.client = .custom →
      ∃ s' : Sink, (run now more).1[i]? = some s' ∧ s'.client = .custom) ∧
    (∀ more, make d client (settings ++ more) = more.foldl apply (make d client settings) ∧
      (run start (more.map (.apply 0))).1 = [make d client (settings ++ more)]) ∧
    ∀ n r c rest, ∃ s, now[placeOf now n]? = some s ∧ ∀ fresh,
      (run start (steps ++ .write n r c :: rest)).2 =
        (run start steps).2 ++ (run [make s.deployment fresh []] [.write 0 r c]).2 ++ (run now rest).2 := by
  intro start now
  have hnow : now = (List.range (count steps.reverse)).map fun i =>
      (line steps.reverse i).foldl apply (make d client settings) := by
    rw [← run_line, List.reverse_reverse]
  have hlength : now.length = count steps.reverse := by rw [hnow, List.length_map, List.length_range]
  refine ⟨⟨hlength, fun i s hs => ?_⟩, fun i st => getElem?_step, step_write now,
    fun i s more hs hc => custom_run hs hc more, fun more => ⟨make_append .., ?_⟩, fun n r c rest => ?_⟩
  · have hi : i < count steps.reverse := hlength ▸ (List.getElem?_eq_some_iff.1 hs).1
    rw [hnow, List.getElem?_map, List.getElem?_range hi] at hs
    obtain rfl := Option.some.inj hs
    exact remembers_foldl ..
  · rw [run_apply, make_append]
  · have hplace : placeOf now n < now.length := by
      have := count_pos steps.reverse
      simp only [placeOf]
      omega
    refine ⟨now[placeOf now n], List.getElem?_eq_getElem hplace, fun fresh => ?_⟩
    rw [run_append, told_write (List.getElem?_eq_getElem hplace) fresh, List.append_assoc]

end Sink

end QueryAudit
