import QueryAudit.Proofs.Ack
import QueryAudit.Proofs.Request
import QueryAudit.Sink
/-!
# What becomes of a write

`write_outcome`: a write succeeds exactly if its request could be built, was received and brought a whole
answer that accepts the event, and otherwise fails with the first stage that did. What is received is the
request that was built, once. `write_blind`: what an event says has no part in any of this.
-/

namespace QueryAudit

/-! ## Requests as they arrive -/

/-- A received request is the one that was sent. -/
structure Carries (q : Request) (p : Received) : Prop where
  method : p.method = "POST"
  url : q.address = p.url ++ q.url.fragment.elim "" fun f => "#" ++ String.ofList f
  names : q.headers.map (·.1) = ["accept", "accept-encoding", "authorization", "content-type", "user-agent"]
  headers : p.headers.Perm (q.headers ++ [("content-length", String.ofList (Numeral.decimal p.body.length)),
    ("host", String.ofList q.url.authority)])
  body : p.body = q.body

theorem headers_of_build {r : Record} {d : Deployment} {q : Request} (h : Request.build r d = .ok q) :
    ∃ value, q.headers = Request.headersWith value := by
  rw [Request.build_eq] at h
  obtain ⟨url, -, h⟩ := bind_eq_ok_iff.1 h
  obtain ⟨value, -, rfl⟩ := map_eq_ok_iff.1 h
  exact ⟨value, rfl⟩

/-- A request that was built arrives as it is. -/
theorem carries_received {r : Record} {d : Deployment} {q : Request} (h : Request.build r d = .ok q) :
    Carries q q.received := by
  obtain ⟨value, hv⟩ := headers_of_build h
  refine ⟨rfl, ?_, by rw [hv]; rfl, ?_, rfl⟩
  · rw [Request.address, Url.Web.render, String.ofList_append]
    cases q.url.fragment with
    | none => rfl
    | some f => simp [Request.received, String.ofList_cons]
  · -- The length stands between the fourth header and the third, the host before the last.
    have hperm {α : Type} (a b c d e l h : α) : [a, b, c, l, d, h, e].Perm ([a, b, c, d, e] ++ [l, h]) := by
      have hlast : ([l, h] ++ [e]).Perm ([e] ++ [l, h]) := List.perm_append_comm
      exact .cons a (.cons b (.cons c ((List.Perm.swap d l [h, e]).trans (.cons d hlast))))
    simp only [Request.received, hv, Request.headersWith]
    exact hperm _ _ _ _ _ _ _

/-! ## Answers -/

/-- A collector that answers to the end, and what the answer holds: two statuses come without a body. -/
inductive Completes : Collector → Bytes → Prop
  | whole {status compressed body} : status ≠ 204 → status ≠ 304 →
      Completes (.listening (.answer status compressed body .whole)) body
  | bodiless {status compressed body transfer} : status = 204 ∨ status = 304 →
      Completes (.listening (.answer status compressed body transfer)) []

/-- A request is received and brings the whole of an answer. -/
structure Brings (q : Request) (c : Collector) (body : Bytes) : Prop where
  sendable : q.isSendable = true
  plain : q.url.scheme = .http
  completes : Completes c body

/-- A request brings no answer, or not the whole of one. -/
inductive Fails (q : Request) : Collector → SendCause → Prop
  | unsendable {c} : q.isSendable = false → Fails q c (.unsendable q.address)
  | unreachable : q.isSendable = true → Fails q .unreachable (.noAnswer q.address)
  | secure {c} : q.isSendable = true → q.url.scheme = .https → Fails q c (.noAnswer q.address)
  | closed : q.isSendable = true → q.url.scheme = .http → Fails q (.listening .close) (.noAnswer q.address)
  | cut {status compressed body transfer} : q.isSendable = true → q.url.scheme = .http → status ≠ 204 →
      status ≠ 304 → transfer ≠ .whole → Fails q (.listening (.answer status compressed body transfer)) .answerCut

/-- A request within reach is received, and the reply is read. -/
theorem exchange_listening {q : Request} (hs : q.isSendable = true) (hq : q.url.scheme = .http) (reply : Reply) :
    Collector.exchange (.listening reply) q = ⟨[q.received], Collector.read q reply⟩ := by
  simp [Collector.exchange, hs, hq]

/-- No other request is. -/
theorem exchange_https {q : Request} (hs : q.isSendable = true) (hq : q.url.scheme = .https) (c : Collector) :
    c.exchange q = ⟨[], .error (.send (.noAnswer q.address))⟩ := by
  simp [Collector.exchange, hs, hq]

theorem exchange_unsendable {q : Request} (hs : ¬q.isSendable = true) (c : Collector) :
    c.exchange q = ⟨[], .error (.send (.unsendable q.address))⟩ := by
  simp [Collector.exchange, hs]

theorem read_bodiless {status : Nat} (h : status = 204 ∨ status = 304) (q : Request) (compressed : Bool) (body : Bytes)
    (transfer : Transfer) :
    Collector.read q (.answer status compressed body transfer) = .ok ⟨q.address, status, []⟩ := by
  simp [Collector.read, Collector.isBodiless, h]

theorem read_answer {status : Nat} (h : ¬(status = 204 ∨ status = 304)) (q : Request) (compressed : Bool) (body : Bytes)
    (transfer : Transfer) : Collector.read q (.answer status compressed body transfer) =
      if transfer = .whole then .ok ⟨q.address, status, body⟩ else .error (.send .answerCut) := by
  cases transfer <;> simp [Collector.read, Collector.isBodiless, h]

/-- A request brings an answer or fails. -/
theorem brings_or_fails (q : Request) (c : Collector) : (∃ body, Brings q c body) ∨ ∃ cause, Fails q c cause := by
  by_cases hs : q.isSendable = true
  · cases hq : q.url.scheme with
    | https => exact .inr ⟨_, .secure hs hq⟩
    | http =>
      cases c with
      | unreachable => exact .inr ⟨_, .unreachable hs⟩
      | listening reply =>
        cases reply with
        | close => exact .inr ⟨_, .closed hs hq⟩
        | answer status compressed body transfer =>
          by_cases h204 : status = 204
          · exact .inl ⟨[], hs, hq, .bodiless (.inl h204)⟩
          by_cases h304 : status = 304
          · exact .inl ⟨[], hs, hq, .bodiless (.inr h304)⟩
          cases transfer with
          | whole => exact .inl ⟨body, hs, hq, .whole h204 h304⟩
          | cut => exact .inr ⟨_, .cut hs hq h204 h304 (by simp)⟩
          | miscoded => exact .inr ⟨_, .cut hs hq h204 h304 (by simp)⟩
  · exact .inr ⟨_, .unsendable (by simpa using hs)⟩

/-- A request that brings an answer is received, and its sender gets what the answer holds. -/
theorem exchange_of_brings {q : Request} {c : Collector} {body : Bytes} (h : Brings q c body) :
    ∃ status, c.exchange q = ⟨[q.received], .ok ⟨q.address, status, body⟩⟩ := by
  obtain ⟨hs, hq, hc⟩ := h
  cases hc with
  | @whole status _ _ h204 h304 =>
    exact ⟨status, by rw [exchange_listening hs hq, read_answer (not_or.2 ⟨h204, h304⟩), if_pos rfl]⟩
  | @bodiless status _ _ _ h => exact ⟨status, by rw [exchange_listening hs hq, read_bodiless h]⟩

/-- A request that fails tells its sender why. -/
theorem answer_of_fails {q : Request} {c : Collector} {cause : SendCause} (h : Fails q c cause) :
    (c.exchange q).answer = .error (.send cause) := by
  cases h with
  | unsendable hs => rw [exchange_unsendable (by simp [hs])]
  | unreachable hs => simp [Collector.exchange, hs]
  | secure hs hq => rw [exchange_https hs hq]
  | closed hs hq => rw [exchange_listening hs hq, Collector.read]
  | cut hs hq h204 h304 ht => rw [exchange_listening hs hq, read_answer (not_or.2 ⟨h204, h304⟩), if_neg ht]

/-- A request is received once or not at all. -/
theorem received_exchange (q : Request) (c : Collector) :
    (c.exchange q).received = [] ∨ (c.exchange q).received = [q.received] := by
  unfold Collector.exchange
  split
  · exact .inl rfl
  split
  · exact .inr rfl
  · exact .inl rfl

/-! ## Outcomes -/

namespace Sink

/-- What a write leads to once its request is built. -/
theorem write_of_build {s : Sink} {r : Record} {q : Request} (h : Request.build r s.deployment = .ok q)
    (c : Collector) : s.write r c = ⟨(c.exchange q).answer.bind fun answer => Ack.interpret answer.body,
      (c.exchange q).received, (c.exchange q).answer.toOption⟩ := by
  simp only [write, h]
  cases (c.exchange q).answer <;> rfl

theorem write_of_not_build {s : Sink} {r : Record} {e : Failure} (h : Request.build r s.deployment = .error e)
    (c : Collector) : s.write r c = ⟨.error e, [], none⟩ := by
  simp only [write, h]

end Sink

/-- The first stage that fails, in their order: the request is built, it is exchanged for an answer, the answer is
read, and it accepts the event. -/
inductive FirstFailure (r : Record) (d : Deployment) (c : Collector) : Failure → Prop
  | build {e} : Request.build r d = .error e → FirstFailure r d c e
  | exchange {q cause} : Request.build r d = .ok q → Fails q c cause → FirstFailure r d c (.send cause)
  | answer {q body fault} : Request.build r d = .ok q → Brings q c body →
      Ack.parse body = .error (.unreadableAck fault) → FirstFailure r d c (.unreadableAck fault)
  | code {q body a} : Request.build r d = .ok q → Brings q c body → Ack.parse body = .ok a → a.code ≠ 0 →
      FirstFailure r d c (.rejected a.code a.text)

/-- All stages are passed, and this is the answer. -/
structure Passes (r : Record) (d : Deployment) (c : Collector) (q : Request) (a : Ack) : Prop where
  build : Request.build r d = .ok q
  exchange : ∃ body, Brings q c body ∧ Ack.parse body = .ok a
  code : a.code = 0

namespace Sink

variable {s : Sink} {r : Record} {c : Collector}

theorem of_passes {q : Request} {a : Ack} (h : Passes r s.deployment c q a) :
    (s.write r c).outcome = .ok () ∧ (s.write r c).received = [q.received] := by
  obtain ⟨hbuild, ⟨body, hbrings, hparse⟩, hcode⟩ := h
  obtain ⟨status, hx⟩ := exchange_of_brings hbrings
  rw [write_of_build hbuild, hx]
  exact ⟨Ack.interpret_eq_ok_iff.2 ⟨a, hparse, hcode⟩, rfl⟩

theorem of_firstFailure {e : Failure} (h : FirstFailure r s.deployment c e) : (s.write r c).outcome = .error e := by
  cases h with
  | build hbuild => rw [write_of_not_build hbuild]
  | exchange hbuild hfails =>
    rw [write_of_build hbuild, answer_of_fails hfails]
    rfl
  | answer hbuild hbrings hparse =>
    obtain ⟨status, hx⟩ := exchange_of_brings hbrings
    rw [write_of_build hbuild, hx]
    simp [Except.bind, Ack.interpret, hparse, bind]
  | code hbuild hbrings hparse hcode =>
    obtain ⟨status, hx⟩ := exchange_of_brings hbrings
    rw [write_of_build hbuild, hx]
    simp [Except.bind, Ack.interpret, hparse, bind, Ack.outcome, hcode]

/-- A write passes all stages or fails at one. -/
theorem passes_or_fails (s : Sink) (r : Record) (c : Collector) :
    (∃ q a, Passes r s.deployment c q a) ∨ ∃ e, FirstFailure r s.deployment c e := by
  cases hbuild : Request.build r s.deployment with
  | error e => exact .inr ⟨e, .build hbuild⟩
  | ok q =>
    rcases brings_or_fails q c with ⟨body, hbrings⟩ | ⟨cause, hfails⟩
    · cases hparse : Ack.parse body with
      | error e =>
        obtain ⟨fault, rfl⟩ := Ack.unreadable_of_parse hparse
        exact .inr ⟨_, .answer hbuild hbrings hparse⟩
      | ok a =>
        by_cases hcode : a.code = 0
        · exact .inl ⟨q, a, hbuild, ⟨body, hbrings, hparse⟩, hcode⟩
        · exact .inr ⟨_, .code hbuild hbrings hparse hcode⟩
    · exact .inr ⟨_, .exchange hbuild hfails⟩

theorem outcome_eq_ok_iff : (s.write r c).outcome = .ok () ↔
    ∃ q a, Passes r s.deployment c q a ∧ (s.write r c).received = [q.received] := by
  constructor
  · intro h
    rcases passes_or_fails s r c with ⟨q, a, hp⟩ | ⟨e, he⟩
    · exact ⟨q, a, hp, (of_passes hp).2⟩
    · rw [of_firstFailure he] at h
      cases h
  · rintro ⟨q, a, hp, -⟩
    exact (of_passes hp).1

theorem outcome_eq_error_iff {e : Failure} : (s.write r c).outcome = .error e ↔ FirstFailure r s.deployment c e := by
  constructor
  · intro h
    rcases passes_or_fails s r c with ⟨q, a, hp⟩ | ⟨e', he⟩
    · rw [(of_passes hp).1] at h
      cases h
    · rw [of_firstFailure he] at h
      exact Except.error.inj h ▸ he
  · exact of_firstFailure

/-- The request that was built is received, once, or none is. -/
theorem received_write (s : Sink) (r : Record) (c : Collector) : (s.write r c).received = [] ∨
    ∃ q, Request.build r s.deployment = .ok q ∧ (s.write r c).received = [q.received] ∧ Carries q q.received := by
  cases hbuild : Request.build r s.deployment with
  | error e => exact .inl (by rw [write_of_not_build hbuild])
  | ok q =>
    rw [write_of_build hbuild]
    exact (received_exchange q c).imp id fun h => ⟨q, rfl, h, carries_received hbuild⟩

end Sink

/-- A collector that replies with the same body under the most common status, without compression. -/
def plainReply (status : Nat) (body : Bytes) (transfer : Transfer) : Collector :=
  if status = 204 ∨ status = 304 then .listening (.answer 200 false [] .whole)
  else .listening (.answer 200 false body transfer)

/-- Status and compression of an answer change only what is told about it. -/
theorem exchange_plainReply (q : Request) (status : Nat) (compressed : Bool) (body : Bytes) (transfer : Transfer) :
    let x := Collector.exchange (.listening (.answer status compressed body transfer)) q
    let y := (plainReply status body transfer).exchange q
    x.received = y.received ∧ x.answer.map (·.body) = y.answer.map (·.body) := by
  intro x y
  by_cases hs : q.isSendable = true
  · cases hq : q.url.scheme with
    | https => simp only [x, y, exchange_https hs hq, and_self]
    | http =>
      have h200 : ¬(200 = 204 ∨ 200 = 304) := by decide
      by_cases hb : status = 204 ∨ status = 304
      · simp only [x, y, plainReply, if_pos hb, exchange_listening hs hq, read_bodiless hb, read_answer h200, true_and]
        rfl
      · simp only [x, y, plainReply, if_neg hb, exchange_listening hs hq, read_answer hb, read_answer h200, true_and]
        split <;> rfl
  · simp only [x, y, exchange_unsendable hs, and_self]

namespace Sink

theorem write_plainReply (s : Sink) (r : Record) (status : Nat) (compressed : Bool) (body : Bytes)
    (transfer : Transfer) :
    let x := s.write r (.listening (.answer status compressed body transfer))
    let y := s.write r (plainReply status body transfer)
    x.outcome = y.outcome ∧ x.received = y.received := by
  cases hbuild : Request.build r s.deployment with
  | error e => simp [write_of_not_build hbuild]
  | ok q =>
    obtain ⟨hreceived, hanswer⟩ := exchange_plainReply q status compressed body transfer
    have hbody (x : Outcome Answer) : (x.bind fun answer => Ack.interpret answer.body) =
        (x.map (·.body)).bind Ack.interpret := by cases x <;> rfl
    simp only [write_of_build hbuild, hreceived, hbody, hanswer, and_self]

/-- The whole of what becomes of a write. It succeeds exactly if every stage does, and then its request was
received; it fails exactly with the first stage that fails. One request at most is received, the one that was
built, and none if none could be. Status and compression of the answer decide nothing. -/
theorem write_outcome (s : Sink) (r : Record) (c : Collector) :
    ((s.write r c).outcome = .ok () ↔
      ∃ q a, Passes r s.deployment c q a ∧ (s.write r c).received = [q.received]) ∧
    (∀ e, (s.write r c).outcome = .error e ↔ FirstFailure r s.deployment c e) ∧
    ((s.write r c).received = [] ∨
      ∃ q, Request.build r s.deployment = .ok q ∧ (s.write r c).received = [q.received] ∧ Carries q q.received) ∧
    (∀ e, Request.build r s.deployment = .error e → (s.write r c).received = []) ∧
    ∀ status compressed body transfer,
      let x := s.write r (.listening (.answer status compressed body transfer))
      let y := s.write r (plainReply status body transfer)
      x.outcome = y.outcome ∧ x.received = y.received :=
  ⟨outcome_eq_ok_iff, fun _ => outcome_eq_error_iff, received_write s r c,
    fun e h => by rw [write_of_not_build h], write_plainReply s r⟩

end Sink

/-! ## What an event says -/

/-- The deployment with other words for where events come from and where they go. -/
def Deployment.relabel (d : Deployment) (index host podNamespace pod : String) : Deployment :=
  { d with index := index, host := host, podNamespace := podNamespace, pod := pod }

/-- What of a received request is not about its body. -/
def Received.frame (p : Received) : String × String × List (String × String) :=
  (p.method, p.url, p.headers.filter fun header => header.1 != "content-length")

/-- A request built for another record and another origin is the same but for its body. -/
theorem build_relabel (r r' : Record) (d : Deployment) (index host podNamespace pod : String) :
    Request.build r' (d.relabel index host podNamespace pod) = (Request.build r d).map fun q =>
      { q with body := (Envelope.ofRecord r' (d.relabel index host podNamespace pod)).body } := by
  rw [Request.build_eq, Request.build_eq]
  simp only [Deployment.relabel]
  cases Request.endpoint d.endpoint with
  | error e => rfl
  | ok url => cases Request.authorization d.token <;> rfl

/-- Of a request only its address decides what it leads to. -/
theorem exchange_congr {q p : Request} (h : p.url = q.url) (c : Collector) :
    (c.exchange p).answer = (c.exchange q).answer ∧
      ((c.exchange p).received = [] ∧ (c.exchange q).received = [] ∨
        (c.exchange p).received = [p.received] ∧ (c.exchange q).received = [q.received]) := by
  have haddress : p.address = q.address := by rw [Request.address, h, Request.address]
  have hsendable : p.isSendable = q.isSendable := by rw [Request.isSendable, h, Request.isSendable]
  have hread (reply : Reply) : Collector.read p reply = Collector.read q reply := by
    cases reply <;> simp only [Collector.read, haddress]
  unfold Collector.exchange
  rw [hsendable, h]
  split
  · exact ⟨by rw [haddress], .inl ⟨rfl, rfl⟩⟩
  split
  · exact ⟨hread _, .inr ⟨rfl, rfl⟩⟩
  · exact ⟨by rw [haddress], .inl ⟨rfl, rfl⟩⟩

/-- What a request leads to does not depend on its body. -/
theorem exchange_body (q : Request) (body : Bytes) (c : Collector) :
    (c.exchange { q with body := body }).answer = (c.exchange q).answer ∧
      (c.exchange { q with body := body }).received.map Received.frame =
        (c.exchange q).received.map Received.frame := by
  -- The body shows in the length that is sent along, which the frame leaves out.
  have hframe : ({ q with body := body } : Request).received.frame = q.received.frame := by
    simp only [Received.frame, Request.received, Prod.mk.injEq, true_and]
    split <;> simp [List.filter_cons, List.filter_append]
  obtain ⟨hanswer, ⟨h', h⟩ | ⟨h', h⟩⟩ := exchange_congr (q := q) (p := { q with body := body }) rfl c
  · exact ⟨hanswer, by rw [h', h]⟩
  · exact ⟨hanswer, by rw [h', h, List.map_singleton, List.map_singleton, hframe]⟩

namespace Sink

/-- Two writes whose requests differ in the body only come to the same. -/
theorem write_of_build_map {s s' : Sink} {r r' : Record} {body : Bytes}
    (h : Request.build r' s'.deployment = (Request.build r s.deployment).map fun q => { q with body := body })
    (c : Collector) : (s.write r c).outcome = (s'.write r' c).outcome ∧ (s.write r c).answer = (s'.write r' c).answer ∧
      (s.write r c).received.map Received.frame = (s'.write r' c).received.map Received.frame := by
  cases hq : Request.build r s.deployment with
  | error e =>
    rw [hq] at h
    rw [write_of_not_build hq, write_of_not_build h]
    exact ⟨rfl, rfl, rfl⟩
  | ok q =>
    rw [hq] at h
    obtain ⟨hanswer, hreceived⟩ := exchange_body q body c
    rw [write_of_build hq, write_of_build h]
    exact ⟨by rw [hanswer], by rw [hanswer], hreceived.symm⟩

/-- A record has no influence on whether it is delivered: with any other one, and from any other origin, the write has
the same outcome and the same answer, and the collector receives as many requests, which differ in the body only. -/
theorem write_blind (s : Sink) (r r' : Record) (index host podNamespace pod : String) (c : Collector) :
    let x := s.write r c
    let y := Sink.write ⟨s.deployment.relabel index host podNamespace pod, s.client⟩ r' c
    x.outcome = y.outcome ∧ x.answer = y.answer ∧ x.received.map Received.frame = y.received.map Received.frame :=
  @write_of_build_map s ⟨s.deployment.relabel index host podNamespace pod, s.client⟩ r r' _
    (build_relabel r r' s.deployment index host podNamespace pod) c

end Sink

end QueryAudit
