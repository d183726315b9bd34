import QueryAudit.Proofs.Waiting
/-!
# Nobody sees the token

`token_unseen`: two runs whose settings differ in the token only look the same to the user and in the log, and the
collector receives the same requests but for the value of one header. The token must be one that can be sent, and
whether there is one may be seen; a preview does not depend on it at all.
-/

namespace QueryAudit

/-! ## Requests -/

/-- A received request with its credential blotted out. -/
def Received.withoutCredential (p : Received) : Received :=
  { p with headers := p.headers.map fun header => if header.1 = "authorization" then (header.1, "") else header }

/-- A token that can be sent: there is one, and a header can hold it. -/
structure IsSendableToken (token : String) : Prop where
  ne_empty : token ≠ ""
  chars : ∀ c ∈ token.toList, Request.isHeaderChar c = true

/-- Settings that differ in the token at most. -/
structure Settings.SameButToken (s s' : Settings) : Prop where
  get : ∀ f, f ≠ .token → s.deployment.get f = s'.deployment.get f
  timeout : s.timeout = s'.timeout
  level : s.level = s'.level
  format : s.format = s'.format

theorem authorization_of_isSendableToken {token : String} (h : IsSendableToken token) :
    Request.authorization token = .ok ("Splunk " ++ token) := by
  have hall : ("Splunk " ++ token).toList.all Request.isHeaderChar = true := by
    rw [String.toList_append, List.all_append, List.all_eq_true.2 h.chars]
    rfl
  simp only [Request.authorization, hall, if_true]

/-- Two requests to one address that differ in their credentials only cannot be told apart without them. -/
theorem received_withoutCredential (url : Url.Web) (value value' : String) (body : Bytes) :
    (Request.received ⟨url, Request.headersWith value, body⟩).withoutCredential =
      (Request.received ⟨url, Request.headersWith value', body⟩).withoutCredential := by
  simp [Request.received, Request.headersWith, Received.withoutCredential]

/-- With a token that can be sent in the place of another, no request can be built either, or it is the same request but
for its credential. -/
theorem build_withToken {d : Deployment} {token : String} (h : IsSendableToken d.token) (h' : IsSendableToken token)
    (r : Record) :
    (∃ e, Request.build r d = .error e ∧ Request.build r (d.set .token token) = .error e) ∨
      ∃ q p, Request.build r d = .ok q ∧ Request.build r (d.set .token token) = .ok p ∧ p.url = q.url ∧
        q.received.withoutCredential = p.received.withoutCredential := by
  have hx := Request.build_eq r d
  have hy := Request.build_eq r (d.set .token token)
  have htoken : (d.set .token token).token = token := rfl
  have hbody : Envelope.ofRecord r (d.set .token token) = Envelope.ofRecord r d := rfl
  rw [authorization_of_isSendableToken h] at hx
  rw [htoken, authorization_of_isSendableToken h', hbody] at hy
  change Request.build r (d.set .token token) = (Request.endpoint d.endpoint).bind _ at hy
  -- The token is in the header only: both requests fail at the address, or both are sent to it.
  cases hendpoint : Request.endpoint d.endpoint with
  | error e =>
    rw [hendpoint] at hx hy
    exact .inl ⟨e, hx, hy⟩
  | ok url =>
    rw [hendpoint] at hx hy
    exact .inr ⟨_, _, hx, hy, rfl, received_withoutCredential _ _ _ _⟩

/-- Two deliveries come to the same, credentials apart. -/
inductive Delivery.Alike : Delivery → Delivery → Prop
  | attempt {a a' : Attempt} : a.outcome = a'.outcome → a.answer = a'.answer →
      a.received.map Received.withoutCredential = a'.received.map Received.withoutCredential →
      Alike (.attempt a) (.attempt a')
  | breakdown {ps ps' : List Received} :
      ps.map Received.withoutCredential = ps'.map Received.withoutCredential → Alike (.breakdown ps) (.breakdown ps')

/-- Nor is there more to tell the requests apart by when they are received. -/
theorem exchange_withoutCredential {q p : Request} (hurl : p.url = q.url)
    (h : q.received.withoutCredential = p.received.withoutCredential) (c : Collector) :
    (c.exchange q).received.map Received.withoutCredential =
      (c.exchange p).received.map Received.withoutCredential := by
  obtain ⟨-, ⟨hp, hq⟩ | ⟨hp, hq⟩⟩ := exchange_congr hurl c
  · rw [hp, hq]
  · rw [hp, hq, List.map_singleton, List.map_singleton, h]

namespace Sink

/-- What a delivery leads to shows nothing of a token that can be sent. -/
theorem deliver_withToken {d : Deployment} {token : String} (h : IsSendableToken d.token) (h' : IsSendableToken token)
    (client : Client) (k : Course) (seconds : UInt64) (r : Record) (c : Collector) :
    Delivery.Alike (Sink.deliver ⟨d, client⟩ k seconds r c)
      (Sink.deliver ⟨d.set .token token, client⟩ k seconds r c) := by
  rcases build_withToken h h' r with ⟨e, hx, hy⟩ | ⟨q, p, hx, hy, hurl, hreceived⟩
  · rw [deliver_of_not_build (s := ⟨d, client⟩) hx, deliver_of_not_build (s := ⟨d.set .token token, client⟩) hy,
      write_of_not_build (s := ⟨d, client⟩) hx, write_of_not_build (s := ⟨d.set .token token, client⟩) hy]
    exact .attempt rfl rfl rfl
  · rw [deliver_of_build (s := ⟨d, client⟩) hx, deliver_of_build (s := ⟨d.set .token token, client⟩) hy,
      Course.breaksDown_congr hurl]
    split
    · unfold Course.receivedBefore
      split
      · exact .breakdown rfl
      · exact .breakdown (exchange_withoutCredential hurl hreceived c)
    · rw [write_of_build (s := ⟨d, client⟩) hx, write_of_build (s := ⟨d.set .token token, client⟩) hy,
        (exchange_congr hurl _).1]
      exact .attempt rfl rfl (exchange_withoutCredential hurl hreceived _)

end Sink

/-- Settings that differ in the token at most are the one with the token of the other. -/
theorem Settings.SameButToken.eq {s s' : Settings} (h : s.SameButToken s') :
    s' = { s with deployment := s.deployment.set .token s'.deployment.token } := by
  obtain ⟨d, timeout, level, format⟩ := s
  obtain ⟨d', timeout', level', format'⟩ := s'
  obtain ⟨hget, rfl, rfl, rfl⟩ := h
  have hd : d' = d.set .token d'.token := by
    refine Deployment.ext_get fun f => ?_
    rw [Deployment.get_set]
    by_cases hf : f = .token
    · rw [if_pos hf, hf]
      rfl
    · rw [if_neg hf]
      exact (hget f hf).symm
  dsimp only
  rw [← hd]

/-- The display of settings says of a token only that there is one. -/
theorem Console.settings_sameButToken {s s' : Settings} (h : s.SameButToken s') (hs : s.deployment.token ≠ "")
    (hs' : s'.deployment.token ≠ "") (coloured : Bool) : settings coloured s = settings coloured s' := by
  have hshown : s.deployment.redactedToken = s'.deployment.redactedToken := by
    rw [Deployment.redactedToken, if_neg hs, Deployment.redactedToken, if_neg hs']
  have hseconds : s.seconds = s'.seconds := by rw [Settings.seconds, h.timeout, Settings.seconds]
  have hendpoint : s.deployment.endpoint = s'.deployment.endpoint := h.get .endpoint nofun
  have hindex : s.deployment.index = s'.deployment.index := h.get .index nofun
  have hhost : s.deployment.host = s'.deployment.host := h.get .host nofun
  have hnamespace : s.deployment.podNamespace = s'.deployment.podNamespace := h.get .podNamespace nofun
  have hpod : s.deployment.pod = s'.deployment.pod := h.get .pod nofun
  simp only [settings, hshown, hseconds, hendpoint, hindex, hhost, hnamespace, hpod, if_neg hs, if_neg hs']

namespace Program

open CommandLine

/-! ## Runs -/

/-- Two commands are the same, with the same record at the times at which they are carried out. -/
inductive SameCommand (now now' : Int64) : Command → Command → Prop
  | write {r r'} : r.record now = r'.record now' → SameCommand now now' (.write r) (.write r')
  | envelope {r r'} : r.record now = r'.record now' → SameCommand now now' (.envelope r) (.envelope r')
  | config : SameCommand now now' .config .config

/-- Two runs are asked for the same in the same surroundings, their settings apart. -/
structure Alike (w w' : Surroundings) (i i' : Invocation) : Prop where
  command : SameCommand w.now w'.now i.command i'.command
  verbose : i.verbose = i'.verbose
  quiet : i.quiet = i'.quiet
  environment : ∀ name ∈ ["RUST_LOG", "CLICOLOR_FORCE", "NO_COLOR"],
    w.environment.text? name = w'.environment.text? name
  collector : w.collector = w'.collector
  course : w.course = w'.course
  wording : w.wording = w'.wording

/-- Two runs look the same to everyone but the collector, and it sees a difference in the credential only. -/
structure LookAlike (x y : Run) : Prop where
  exitCode : x.exitCode = y.exitCode
  stdout : x.stdout = y.stdout
  stderr : x.stderr = y.stderr
  logs : x.logs = y.logs
  received : x.received.map Received.withoutCredential = y.received.map Received.withoutCredential

theorem LookAlike.refl (x : Run) : LookAlike x x := ⟨rfl, rfl, rfl, rfl, rfl⟩

variable {w w' : Surroundings} {i i' : Invocation} {s s' : Settings}

theorem Alike.isColoured (h : Alike w w' i i') :
    Console.isColoured w.environment = Console.isColoured w'.environment := by
  rw [Console.isColoured, h.environment "CLICOLOR_FORCE" (by decide), Console.isColoured]

/-- The same messages are let through and written in the same way. -/
theorem logged_alike (h : Alike w w' i i') (hs : s.SameButToken s') (events : List Log.Event) :
    logged w.environment i s events = logged w'.environment i' s' events := by
  have hlevel : level i s = level i' s' := by rw [level, h.verbose, h.quiet, hs.level, level]
  have hcoloured : Console.isLogColoured w.environment = Console.isLogColoured w'.environment := by
    rw [Console.isLogColoured, h.environment "NO_COLOR" (by decide), Console.isLogColoured]
  simp only [logged, hlevel, hcoloured, hs.format, filter, h.environment "RUST_LOG" (by decide)]

/-- The messages of a write tell of the deployment only which index the event goes to. -/
theorem messages_congr (r : Record) {d d' : Deployment} {a a' : Attempt} (hindex : d.index = d'.index)
    (houtcome : a.outcome = a'.outcome) (hanswer : a.answer = a'.answer) :
    Log.Event.ofAttempt r d a = Log.Event.ofAttempt r d' a' := by
  rw [Log.Event.ofAttempt, Log.Event.writing, hindex, houtcome, hanswer, Log.Event.ofAttempt, Log.Event.writing]

/-- Deliveries that come to the same, credentials apart, are reported alike. -/
theorem ofDelivery_lookAlike (h : Alike w w' i i') (hs : s.SameButToken s') (r : Record) {x x' : Delivery}
    (hx : x.Alike x') : LookAlike (ofDelivery w i s r x) (ofDelivery w' i' s' r x') := by
  have hindex : s.deployment.index = s'.deployment.index := hs.get .index nofun
  have hendpoint : s.deployment.endpoint = s'.deployment.endpoint := hs.get .endpoint nofun
  have hmessage : acceptedMessage r s.deployment = acceptedMessage r s'.deployment := by
    unfold acceptedMessage
    rw [hendpoint]
  cases hx with
  | breakdown hreceived =>
    have hlogs : logged w.environment i s [Log.Event.writing r s.deployment] =
        logged w'.environment i' s' [Log.Event.writing r s'.deployment] := by
      rw [logged_alike h hs, Log.Event.writing, hindex, Log.Event.writing]
    exact ⟨rfl, rfl, by simp only [ofDelivery, brokenDown, h.wording], hlogs, hreceived⟩
  | @attempt a a' houtcome hanswer hreceived =>
    have hlogs : logged w.environment i s (Log.Event.ofAttempt r s.deployment a) =
        logged w'.environment i' s' (Log.Event.ofAttempt r s'.deployment a') := by
      rw [logged_alike h hs, messages_congr r hindex houtcome hanswer]
    simp only [ofDelivery, ofAttempt, houtcome]
    cases a'.outcome with
    | error f => exact ⟨rfl, rfl, by simp only [failed, h.isColoured, h.wording], hlogs, hreceived⟩
    | ok u => exact ⟨rfl, by simp only [done, h.quiet, h.isColoured, hmessage], rfl, hlogs, hreceived⟩

theorem write_lookAlike (h : Alike w w' i i') (hs : s.SameButToken s') (ht : IsSendableToken s.deployment.token)
    (ht' : IsSendableToken s'.deployment.token) (r : Record) : LookAlike (write w i s r) (write w' i' s' r) := by
  have hd : s'.deployment = s.deployment.set .token s'.deployment.token := congrArg Settings.deployment hs.eq
  have hseconds : s.seconds = s'.seconds := by rw [Settings.seconds, hs.timeout, Settings.seconds]
  have hx := Sink.deliver_withToken ht ht' .custom w.course s.seconds r w.collector
  rw [← hd] at hx
  rw [write, write, ← h.collector, ← h.course, ← hseconds]
  exact ofDelivery_lookAlike h hs r hx

/-- Nobody sees the token. Two runs that are asked for the same in the same surroundings, and whose settings differ in
the token at most, look the same to the user and in the log, and the collector receives the same but for the
credential, if both tokens can be sent. What is previewed does not depend on either token. -/
theorem token_unseen {args args' : List String} (hx : read args = .ok i) (hy : read args' = .ok i')
    (hs : Settings.gather w.files w.environment i = .ok s)
    (hs' : Settings.gather w'.files w'.environment i' = .ok s') (h : Alike w w' i i') (hbut : s.SameButToken s')
    (htoken : (∃ r, i.command = .envelope r) ∨
      IsSendableToken s.deployment.token ∧ IsSendableToken s'.deployment.token) :
    LookAlike (run w args) (run w' args') := by
  rw [run_of_read hx, run_of_read hy]
  have hcommand := h.command
  -- The commands stand in records, so that they need names before they can be told apart.
  generalize hi : i.command = c at hcommand htoken
  generalize hi' : i'.command = c' at hcommand
  cases hcommand with
  | write hr =>
    obtain ⟨-, ⟨⟩⟩ | ⟨ht, ht'⟩ := htoken
    rw [perform_write hs hi, perform_write hs' hi', ← hr]
    exact write_lookAlike h hbut ht ht' _
  | envelope hr =>
    rw [perform_envelope hs hi, perform_envelope hs' hi', ← hr, hbut.eq]
    exact .refl _
  | config =>
    obtain ⟨-, ⟨⟩⟩ | ⟨ht, ht'⟩ := htoken
    rw [perform_config hs hi, perform_config hs' hi', h.isColoured,
      Console.settings_sameButToken hbut ht.ne_empty ht'.ne_empty]
    exact .refl _

/-- Two tokens from the command line, in deliveries that the collector refuses. -/
theorem token_unseen_refused :
    let w : Surroundings := ⟨⟨[], none⟩, ⟨[], none⟩, 0, .listening (.answer 403 false [0x5B, 0x34, 0x5D] .whole), {},
      ⟨fun _ => "", id⟩⟩
    let arguments (token : String) := ["-v", "--endpoint=http://c", "--token=" ++ token, "write", "--user=u"]
    LookAlike (run w (arguments "one")) (run w (arguments "another")) := by
  intro w arguments
  let asked (token : String) : Invocation :=
    assemble .write { values := [(.field .token, token), (.field .endpoint, "http://c")], switches := [.verbose] }
      { values := [(.user, "u")] }
  let given (token : String) : Settings := Settings.layer {} w.environment (asked token)
  have hx : CommandLine.read (arguments "one") = .ok (asked "one") := rfl
  have hy : CommandLine.read (arguments "another") = .ok (asked "another") := rfl
  have hs (token : String) : Settings.gather w.files w.environment (asked token) = .ok (given token) := rfl
  have halike : Alike w w (asked "one") (asked "another") := ⟨.write rfl, rfl, rfl, fun _ _ => rfl, rfl, rfl, rfl⟩
  have hget : ∀ f, f ≠ .token → (given "one").deployment.get f = (given "another").deployment.get f := by
    intro f hf
    cases f with
    | token => exact absurd rfl hf
    | _ => rfl
  have hbut : (given "one").SameButToken (given "another") := ⟨hget, rfl, rfl, rfl⟩
  have ht : IsSendableToken "one" := ⟨by decide, List.all_eq_true.1 rfl⟩
  have ht' : IsSendableToken "another" := ⟨by decide, List.all_eq_true.1 rfl⟩
  exact token_unseen hx hy (hs "one") (hs "another") halike hbut (.inr ⟨ht, ht'⟩)

end Program

end QueryAudit
