import QueryAudit.Proofs.CommandLine.Insertion
import QueryAudit.Proofs.Lines
import QueryAudit.Proofs.Waiting
/-!
# The log only looks on

`logging_observes`: whatever decides what is logged and how, all else that can be seen of a run stays as it is, and
`-q` takes no more away than the line that reports success. What is logged where no filter is given are the notices
of a write, by how far it got, up to one level; `Log.Written` says how their lines look.
-/

namespace QueryAudit

/-! ## Environments -/

/-- Two environments that differ in one variable at most. -/
structure Environment.SameBut (name : String) (e e' : Environment) : Prop where
  get? : ∀ n, n ≠ name → e.get? n = e'.get? n
  accountHome : e.accountHome = e'.accountHome

namespace Environment.SameBut

variable {name : String} {e e' : Environment}

theorem text? (h : SameBut name e e') {n : String} (hn : n ≠ name) : e.text? n = e'.text? n := by
  rw [Environment.text?, h.get? n hn, Environment.text?]

theorem home? (h : SameBut "RUST_LOG" e e') : e.home? = e'.home? := by
  rw [Environment.home?, h.get? "HOME" (by decide), h.accountHome, Environment.home?]

theorem values (h : SameBut "RUST_LOG" e e') : e.values = e'.values :=
  funext fun f => h.text? (by cases f <;> decide)

/-- Settings do not come from the variable that filters log messages. -/
theorem gather (h : SameBut "RUST_LOG" e e') (files : FileTree) (i : CommandLine.Invocation) :
    Settings.gather files e i = Settings.gather files e' i := by
  have hdirectory : Settings.configDirectory? e = Settings.configDirectory? e' := by
    rw [Settings.configDirectory?, h.get? "XDG_CONFIG_HOME" (by decide), h.home?, Settings.configDirectory?]
  have hresolve : Settings.resolve files e (i.config.map octets) = Settings.resolve files e' (i.config.map octets) := by
    unfold Settings.resolve Settings.defaultPath?
    rw [hdirectory]
  have hlayer (file : Settings) : file.layer e i = file.layer e' i := by
    simp only [Settings.layer, Settings.applyEnvironment, h.values]
  simp only [Settings.gather, hresolve, hlayer]

theorem isColoured (h : SameBut "RUST_LOG" e e') : Console.isColoured e = Console.isColoured e' := by
  rw [Console.isColoured, h.text? (by decide), Console.isColoured]

end Environment.SameBut

/-! ## Messages of a write -/

/-- A request brings this answer. -/
structure Answers (q : Request) (c : Collector) (a : Answer) : Prop where
  brings : Brings q c a.body
  url : a.url = q.address
  status : ∃ compressed body transfer, c = .listening (.answer a.status compressed body transfer)

/-- What a write has to say, by how far it gets. -/
inductive Says (r : Record) (d : Deployment) (c : Collector) : List Log.Notice → Prop
  | unanswered : (∀ q, Request.build r d = .ok q → ∀ body, ¬Brings q c body) → Says r d c [.starts r d]
  | answered {q a} : Request.build r d = .ok q → Answers q c a →
      (∀ code text, ¬FirstFailure r d c (.rejected code text)) → Says r d c [.starts r d, .answered a]
  | refused {q a code text} : Request.build r d = .ok q → Answers q c a →
      FirstFailure r d c (.rejected code text) → Says r d c [.starts r d, .answered a, .refused code text]

theorem answers_of_exchange {q : Request} {c : Collector} {a : Answer} (h : (c.exchange q).answer = .ok a) :
    Answers q c a := by
  rcases brings_or_fails q c with ⟨body, hsendable, hplain, hcompletes⟩ | ⟨cause, hfails⟩
  · cases hcompletes with
    | whole h204 h304 =>
      rw [exchange_listening hsendable hplain, read_answer (not_or.2 ⟨h204, h304⟩), if_pos rfl] at h
      cases h
      exact ⟨⟨hsendable, hplain, .whole h204 h304⟩, rfl, _, _, _, rfl⟩
    | bodiless hstatus =>
      rw [exchange_listening hsendable hplain, read_bodiless hstatus] at h
      cases h
      exact ⟨⟨hsendable, hplain, .bodiless hstatus⟩, rfl, _, _, _, rfl⟩
  · rw [answer_of_fails hfails] at h
    cases h

theorem exchange_of_answers {q : Request} {c : Collector} {a : Answer} (h : Answers q c a) :
    (c.exchange q).answer = .ok a := by
  obtain ⟨url, status, body⟩ := a
  obtain ⟨⟨hsendable, hplain, hcompletes⟩, rfl, compressed, _, transfer, rfl⟩ := h
  cases hcompletes with
  | whole h204 h304 => rw [exchange_listening hsendable hplain, read_answer (not_or.2 ⟨h204, h304⟩), if_pos rfl]
  | bodiless hstatus => rw [exchange_listening hsendable hplain, read_bodiless hstatus]

theorem not_brings_of_exchange {q : Request} {c : Collector} {e : Failure} (h : (c.exchange q).answer = .error e)
    (body : Bytes) : ¬Brings q c body := by
  intro hbrings
  obtain ⟨status, hx⟩ := exchange_of_brings hbrings
  rw [hx] at h
  cases h

/-- A write has one thing to say. -/
theorem Says.unique {r : Record} {d : Deployment} {c : Collector} {notices notices' : List Log.Notice}
    (h : Says r d c notices) (h' : Says r d c notices') : notices = notices' := by
  have hanswer {q q' : Request} {a a' : Answer} (hq : Request.build r d = .ok q) (ha : Answers q c a)
      (hq' : Request.build r d = .ok q') (ha' : Answers q' c a') : a = a' := by
    cases Except.ok.inj (hq.symm.trans hq')
    exact Except.ok.inj ((exchange_of_answers ha).symm.trans (exchange_of_answers ha'))
  cases h with
  | unanswered hnone =>
    cases h' with
    | unanswered => rfl
    | answered hq ha | refused hq ha => exact absurd ha.brings (hnone _ hq _)
  | answered hq ha hnot =>
    cases h' with
    | unanswered hnone => exact absurd ha.brings (hnone _ hq _)
    | answered hq' ha' => rw [hanswer hq ha hq' ha']
    | refused _ _ hrefused => exact absurd hrefused (hnot _ _)
  | refused hq ha hrefused =>
    cases h' with
    | unanswered hnone => exact absurd ha.brings (hnone _ hq _)
    | answered _ _ hnot => exact absurd hrefused (hnot _ _)
    | refused hq' ha' hrefused' =>
      have hsame := (Sink.of_firstFailure (s := ⟨d, .custom⟩) hrefused).symm.trans
        (Sink.of_firstFailure (s := ⟨d, .custom⟩) hrefused')
      cases hsame
      rw [hanswer hq ha hq' ha']

/-- Only the collector refuses an event. -/
theorem not_rejected_of_build (r : Record) (d : Deployment) (code : Int64) (text : String) :
    Request.build r d ≠ .error (.rejected code text) := by
  intro h
  rcases Request.of_not_build h with hf | ⟨-, hf⟩
  · cases hf
  · cases hf

/-- The messages of an attempt, by what came of it. -/
theorem ofAttempt_of_rejected {r : Record} {d : Deployment} {a : Attempt} {code : Int64} {text : String}
    (h : a.outcome = .error (.rejected code text)) : Log.Event.ofAttempt r d a =
      .writing r d :: (a.answer.map Log.Event.responded).toList ++ [.refused code text] := by
  rw [Log.Event.ofAttempt, h]

theorem ofAttempt_of_not_rejected {r : Record} {d : Deployment} {a : Attempt}
    (h : ∀ code text, a.outcome ≠ .error (.rejected code text)) : Log.Event.ofAttempt r d a =
      .writing r d :: (a.answer.map Log.Event.responded).toList := by
  rw [Log.Event.ofAttempt]
  split
  · next hrejected => exact absurd hrejected (h _ _)
  · exact List.append_nil _

/-- Messages go as far as the write does. -/
theorem says_ofAttempt (s : Sink) (r : Record) (c : Collector) : ∃ notices, Says r s.deployment c notices ∧
    Log.Event.ofAttempt r s.deployment (s.write r c) = notices.map Log.Notice.event := by
  cases hbuild : Request.build r s.deployment with
  | error e =>
    rw [Sink.write_of_not_build hbuild, ofAttempt_of_not_rejected]
    · refine ⟨_, .unanswered fun q hq => ?_, rfl⟩
      rw [hbuild] at hq
      cases hq
    · rintro code text ⟨⟩
      exact not_rejected_of_build r s.deployment code text hbuild
  | ok q =>
    have hwrite := Sink.write_of_build hbuild c
    cases hanswer : (c.exchange q).answer with
    | error e =>
      have hnone : ∀ q', Request.build r s.deployment = .ok q' → ∀ body, ¬Brings q' c body := by
        intro q' hq'
        rw [hbuild] at hq'
        cases hq'
        exact not_brings_of_exchange hanswer
      have hnot : ∀ code text, (s.write r c).outcome ≠ .error (.rejected code text) := by
        intro code text hrejected
        cases Sink.outcome_eq_error_iff.1 hrejected with
        | build h => exact not_rejected_of_build r s.deployment code text h
        | code hq hbrings => exact hnone _ hq _ hbrings
      rw [ofAttempt_of_not_rejected hnot, hwrite, hanswer]
      exact ⟨_, .unanswered hnone, rfl⟩
    | ok a =>
      have hanswers := answers_of_exchange hanswer
      have hsome : (s.write r c).answer = some a := by rw [hwrite, hanswer, Except.toOption]
      by_cases hrejected : ∃ code text, (s.write r c).outcome = .error (.rejected code text)
      · obtain ⟨code, text, h⟩ := hrejected
        rw [ofAttempt_of_rejected h, hsome]
        exact ⟨_, .refused hbuild hanswers (Sink.outcome_eq_error_iff.1 h), rfl⟩
      · have hnot : ∀ code text, (s.write r c).outcome ≠ .error (.rejected code text) :=
          fun code text h => hrejected ⟨code, text, h⟩
        rw [ofAttempt_of_not_rejected hnot, hsome]
        exact ⟨_, .answered hbuild hanswers fun code text h => hnot code text (Sink.of_firstFailure h), rfl⟩

namespace Program

open CommandLine

/-! ## Runs -/

/-- The same can be seen of two runs but for what is logged. -/
structure SameButLogs (x y : Run) : Prop where
  exitCode : x.exitCode = y.exitCode
  stdout : x.stdout = y.stdout
  stderr : x.stderr = y.stderr
  received : x.received = y.received
  failure : x.failure = y.failure

/-- The second run keeps quiet about the success of a delivery, and is otherwise the same but for what is logged. -/
structure Hushed (w : Surroundings) (i : Invocation) (s : Settings) (x y : Run) : Prop where
  exitCode : x.exitCode = y.exitCode
  stdout : x.stdout = y.stdout ∨ ∃ r, i.command = .write r ∧ y.stdout = "" ∧
    Console.Marked w.environment "✓" "32"
      ("Audit event for '" ++ r.user ++ "' accepted by " ++ s.deployment.endpoint) x.stdout
  stderr : x.stderr = y.stderr
  received : x.received = y.received
  failure : x.failure = y.failure

/-- The level up to which messages are let through where no filter is given. -/
inductive Effective (i : Invocation) (s : Settings) : Log.Level → Prop
  | verbose : i.verbose = true → Effective i s .debug
  | quiet : i.verbose = false → i.quiet = true → Effective i s .error
  | settings : i.verbose = false → i.quiet = false → Effective i s s.level

/-- The notices of a command. A client that breaks down leaves the first one of its write, and one that waits those
of a write to the collector that it meets. -/
inductive Tells (w : Surroundings) (i : Invocation) (s : Settings) : List Log.Notice → Prop
  | brokenDown {r q} : i.command = .write r → Request.build (r.record w.now) s.deployment = .ok q →
      w.course.BreaksDown (s.timeout.getD 10) q w.collector →
      Tells w i s [.starts (r.record w.now) s.deployment]
  | write {r c notices} : i.command = .write r →
      (∀ q, Request.build (r.record w.now) s.deployment = .ok q →
        ¬w.course.BreaksDown (s.timeout.getD 10) q w.collector) →
      w.course.Meets (s.timeout.getD 10) w.collector c → Says (r.record w.now) s.deployment c notices →
      Tells w i s notices
  | silent : (∀ r, i.command ≠ .write r) → Tells w i s []

variable {w : Surroundings} {i : Invocation} {s : Settings}

theorem ofDelivery_sameButLogs {files : FileTree} {environment : Environment}
    (he : w.environment.SameBut "RUST_LOG" environment) (verbose : Bool) (level : Log.Level) (format : Log.Format)
    (r : Record) (x : Delivery) : SameButLogs (ofDelivery w i s r x)
      (ofDelivery { w with files, environment } { i with verbose } { s with level, format } r x) := by
  cases x with
  | breakdown received => exact ⟨rfl, rfl, rfl, rfl, rfl⟩
  | attempt a =>
    simp only [ofDelivery, ofAttempt, failed, he.isColoured]
    cases a.outcome <;> exact ⟨rfl, rfl, rfl, rfl, rfl⟩

theorem ofDelivery_hushed (hi : i.quiet = false) {r : RecordOptions} (hr : i.command = .write r) (x : Delivery) :
    Hushed w i s (ofDelivery w i s (r.record w.now) x)
      (ofDelivery w { i with quiet := true } s (r.record w.now) x) := by
  cases x with
  | breakdown received => exact ⟨rfl, .inl rfl, rfl, rfl, rfl⟩
  | attempt a =>
    simp only [ofDelivery, ofAttempt]
    cases a.outcome with
    | error f => exact ⟨rfl, .inl rfl, rfl, rfl, rfl⟩
    | ok u =>
      refine ⟨rfl, .inr ⟨r, hr, rfl, ?_⟩, rfl, rfl, rfl⟩
      simp only [done, hi, Bool.false_eq_true, if_false]
      exact Console.marked_success _ _

/-- What is logged, and how, makes no difference to what a command does. -/
theorem perform_sameButLogs (hs : Settings.gather w.files w.environment i = .ok s) {files : FileTree}
    {environment : Environment} {level : Log.Level} {format : Log.Format}
    (hs' : Settings.gather files w.environment i = .ok { s with level, format })
    (he : w.environment.SameBut "RUST_LOG" environment) (verbose : Bool) :
    SameButLogs (perform w i) (perform { w with files, environment } { i with verbose }) := by
  let w' : Surroundings := { w with files, environment }
  let i' : Invocation := { i with verbose }
  have hs' : Settings.gather w'.files w'.environment i' = .ok { s with level, format } :=
    (he.gather files i).symm.trans hs'
  change SameButLogs _ (perform w' i')
  cases hi : i.command with
  | write r =>
    rw [perform_write hs hi, perform_write (w := w') (i := i') hs' hi]
    exact ofDelivery_sameButLogs he verbose level format _ _
  | envelope r =>
    rw [perform_envelope hs hi, perform_envelope (w := w') (i := i') hs' hi]
    exact ⟨rfl, rfl, rfl, rfl, rfl⟩
  | config =>
    rw [perform_config hs hi, perform_config (w := w') (i := i') hs' hi, he.isColoured]
    exact ⟨rfl, rfl, rfl, rfl, rfl⟩

theorem perform_hushed (hs : Settings.gather w.files w.environment i = .ok s) (hi : i.quiet = false) :
    Hushed w i s (perform w i) (perform w { i with quiet := true }) := by
  let i' : Invocation := { i with quiet := true }
  have hs' : Settings.gather w.files w.environment i' = .ok s := hs
  change Hushed w i s _ (perform w i')
  cases hc : i.command with
  | write r =>
    rw [perform_write hs hc, perform_write hs' hc]
    exact ofDelivery_hushed hi hc _
  | envelope r =>
    rw [perform_envelope hs hc, perform_envelope hs' hc]
    exact ⟨rfl, .inl rfl, rfl, rfl, rfl⟩
  | config =>
    rw [perform_config hs hc, perform_config hs' hc]
    exact ⟨rfl, .inl rfl, rfl, rfl, rfl⟩

/-! ## What is logged -/

theorem effective_level (i : Invocation) (s : Settings) : Effective i s (level i s) := by
  unfold level
  split
  · next h => exact .verbose h
  next hverbose =>
  split
  · next h => exact .quiet (by simpa using hverbose) h
  · next h => exact .settings (by simpa using hverbose) (by simpa using h)

theorem logged_of_no_filter (h : w.environment.text? "RUST_LOG" = none) (events : List Log.Event) :
    logged w.environment i s events = (events.filter fun e => e.level.rank ≤ (level i s).rank).map
      (Log.Line.ofEvent s.format (Console.isLogColoured w.environment)) := by
  have hfilter : filter w.environment (level i s) = Log.Filter.ofLevel (level i s) := by simp only [filter, h]; rfl
  rw [logged, hfilter]
  rfl

/-- A command logs the messages of its notices. -/
theorem perform_tells (hs : Settings.gather w.files w.environment i = .ok s) : ∃ notices, Tells w i s notices ∧
    (perform w i).logs = logged w.environment i s (notices.map Log.Notice.event) := by
  cases hi : i.command with
  | write r =>
    rw [perform_write hs hi]
    rcases breaksDown_or_not w s (r.record w.now) with ⟨q, hq, hbreaks⟩ | hlasts
    · rw [write_of_breaksDown hq hbreaks]
      exact ⟨_, .brokenDown hi hq hbreaks, rfl⟩
    · obtain ⟨notices, hsays, hevents⟩ := says_ofAttempt ⟨s.deployment, .custom⟩ (r.record w.now)
        (w.course.seen (s.timeout.getD 10) w.collector)
      rw [write_of_not_breaksDown hlasts]
      exact ⟨notices, .write hi hlasts (Course.meets_seen _ _ _) hsays,
        congrArg (logged w.environment i s) hevents⟩
  | envelope r =>
    rw [perform_envelope hs hi]
    exact ⟨[], .silent (by simp [hi]), rfl⟩
  | config =>
    rw [perform_config hs hi]
    exact ⟨[], .silent (by simp [hi]), rfl⟩

/-- Colours in the log, unless a variable that is not empty forbids them. -/
theorem isLogColoured_iff (e : Environment) :
    Console.isLogColoured e = true ↔ ∀ value, e.text? "NO_COLOR" = some value → value = "" := by
  simp [Console.isLogColoured, Option.any_eq_false]

/-- The log only looks on. Another filter, another level or format in the settings and `-v` change nothing but what is
logged, and `-q` takes away no more than the line that reports success. Arguments with one of these switches more ask
for the same, but for the switch. Where no filter is given, what is logged are the notices of the command that the
level in effect lets through, in their order, each on a line of its own. -/
theorem logging_observes {args : List String} (h : read args = .ok i)
    (hs : Settings.gather w.files w.environment i = .ok s) :
    (∀ args' verbose files environment level format, read args' = .ok { i with verbose } →
      Settings.gather files w.environment i = .ok { s with level, format } →
      w.environment.SameBut "RUST_LOG" environment →
      SameButLogs (run w args) (run { w with files, environment } args')) ∧
    (∀ args', i.quiet = false → read args' = .ok { i with quiet := true } → Hushed w i s (run w args) (run w args')) ∧
    (∀ switch form before behind j, args = before ++ behind → switch = .verbose ∨ switch = .quiet →
      read (before ++ (Word.switch switch form).text :: behind) = .ok j → j = i.turnOn switch) ∧
    (w.environment.text? "RUST_LOG" = none → ∃ l notices coloured, Effective i s l ∧ Tells w i s notices ∧
      (coloured = true ↔ ∀ value, w.environment.text? "NO_COLOR" = some value → value = "") ∧
      List.Forall₂ (Log.Written coloured s.format) (notices.filter (·.passes l)) (run w args).logs) := by
  rw [run_of_read h]
  refine ⟨fun args' verbose files environment level format h' hs' he => ?_, fun args' hquiet h' => ?_,
    fun switch form before behind j hargs hswitch hj => ?_, fun hnone => ?_⟩
  · rw [run_of_read h']
    exact perform_sameButLogs hs hs' he verbose
  · rw [run_of_read h']
    exact perform_hushed hs hquiet
  · obtain ⟨i', hi', hj⟩ := read_insert hswitch form hj
    rw [← hargs, h] at hi'
    cases hi'
    exact hj
  · obtain ⟨notices, htells, hlogs⟩ := perform_tells hs
    refine ⟨_, notices, _, effective_level i s, htells, isLogColoured_iff w.environment, ?_⟩
    rw [hlogs, logged_of_no_filter hnone]
    exact Log.forall₂_written s.format _ _ notices

/-- A delivery that the collector refuses: with a filter and in detail, without a word, and with all of its log. -/
theorem logging_observes_refused :
    let w : Surroundings := ⟨⟨[], none⟩, ⟨[("NO_COLOR", octets "1")], none⟩, 0,
      .listening (.answer 403 false (octets "[4,\"no\"]") .whole), {}, ⟨fun _ => "", id⟩⟩
    let filtered : Environment := ⟨[("RUST_LOG", octets "trace"), ("NO_COLOR", octets "1")], none⟩
    let arguments (switches : List String) := switches ++ ["--endpoint=http://c", "write", "--user=u"]
    let asked (switches : List Switch) : Invocation :=
      assemble .write { values := [(.field .endpoint, "http://c")], switches } { values := [(.user, "u")] }
    let given : Settings := { deployment := { endpoint := "http://c" } }
    SameButLogs (run w (arguments [])) (run { w with environment := filtered } (arguments ["-v"])) ∧
    Hushed w (asked []) given (run w (arguments [])) (run w (arguments ["-q"])) ∧
    (run w (arguments ["-v"])).logs = [
      .text " DEBUG writing audit event to Splunk user=u time=0 index=",
      .text " DEBUG collector responded url=http://c/ status=403 Forbidden bytes=8",
      .text "  WARN Splunk rejected audit event code=4 text=no"] := by
  intro w filtered arguments asked given
  have hx : CommandLine.read (arguments []) = .ok (asked []) := rfl
  have hv : CommandLine.read (arguments ["-v"]) = .ok (asked [.verbose]) := rfl
  have hs : Settings.gather w.files w.environment (asked []) = .ok given := rfl
  have hsv : Settings.gather w.files w.environment (asked [.verbose]) = .ok given := rfl
  have hsame : w.environment.SameBut "RUST_LOG" filtered := by
    refine ⟨fun n hn => ?_, rfl⟩
    simp [w, filtered, Environment.get?, List.lookup_cons, beq_false_of_ne hn]
  obtain ⟨hfilter, hquiet, -, -⟩ := logging_observes hx hs
  refine ⟨hfilter (arguments ["-v"]) true w.files filtered .warn .text rfl rfl hsame, hquiet (arguments ["-q"]) rfl rfl,
    ?_⟩
  -- What is logged in detail follows from what the write has to say.
  obtain ⟨-, -, -, hlogs⟩ := logging_observes hv hsv
  obtain ⟨l, notices, coloured, hlevel, htells, hcoloured, hlines⟩ := hlogs (by decide +kernel)
  have hbuild : ∃ q, Request.build ⟨"", "u", 0⟩ given.deployment = .ok q ∧ q.address = "http://c/" ∧
      q.isSendable = true ∧ q.url.scheme = .http := by decide +kernel
  obtain ⟨q, hq, haddress, hsendable, hscheme⟩ := hbuild
  have hbrings : Brings q w.collector (octets "[4,\"no\"]") := ⟨hsendable, hscheme, .whole (by decide) (by decide)⟩
  have hparse : Ack.parse (octets "[4,\"no\"]") = .ok ⟨4, "no"⟩ := by decide +kernel
  have hsays : Says ⟨"", "u", 0⟩ given.deployment w.collector
      [.starts ⟨"", "u", 0⟩ given.deployment, .answered ⟨"http://c/", 403, octets "[4,\"no\"]"⟩, .refused 4 "no"] :=
    .refused hq ⟨hbrings, haddress.symm, _, _, _, rfl⟩ (.code hq hbrings hparse (by decide))
  have hnotices : notices = [.starts ⟨"", "u", 0⟩ given.deployment,
      .answered ⟨"http://c/", 403, octets "[4,\"no\"]"⟩, .refused 4 "no"] := by
    cases htells with
    | brokenDown _ _ hbreaks => exact absurd hbreaks (Course.not_breaksDown (by decide) (by decide))
    | silent hnone => exact absurd rfl (hnone _)
    | write hr _ hmeets hsays' =>
      cases hr
      cases hmeets with
      | inTime => exact hsays'.unique hsays
      | lateHead h => exact absurd h (by decide)
      | lateBody _ h => exact absurd h (by decide)
  have hdebug : l = .debug := by
    cases hlevel with
    | verbose => rfl
    | quiet h => cases h
    | settings h => cases h
  have hplain : coloured = false := Bool.eq_false_iff.2 fun h =>
    absurd (hcoloured.1 h "1" (by decide +kernel)) (by decide)
  subst hnotices hdebug hplain
  obtain ⟨x, _, hstarts, hlater, hlogs⟩ := List.forall₂_cons_left_iff.1 hlines
  obtain ⟨y, _, hanswered, hlast, rfl⟩ := List.forall₂_cons_left_iff.1 hlater
  obtain ⟨z, _, hrefused, hend, rfl⟩ := List.forall₂_cons_left_iff.1 hlast
  obtain rfl := List.forall₂_nil_left_iff.1 hend
  cases hstarts
  cases hanswered
  cases hrefused
  refine hlogs.trans ?_
  simp only [List.cons.injEq, Log.Line.text.injEq, and_true]
  decide +kernel

end Program

end QueryAudit
