import QueryAudit.Program
import QueryAudit.Proofs.Delivery
/-!
# What waiting comes to

A delivery breaks down exactly if one of its waits would end at a point that the clock cannot show
(`deliver_of_breaksDown`, `deliver_of_not_breaksDown`), and is otherwise the write to the collector as it is met in
time. Whatever is read in time from a collector would have been read from it without a limit (`Meets.brings`).
-/

namespace QueryAudit

open Course

variable {k : Course} {seconds : UInt64} {c : Collector} {q : Request}

namespace Course

/-- Something takes so many nanoseconds that it is not there when some seconds are over. -/
def Late (duration : Nat) (seconds : UInt64) : Prop := seconds.toNat * 1000000000 ≤ duration

/-- In some seconds from now the clock would have to show more than the greatest number of 64 bits with a sign. -/
def Beyond (now : Nat) (seconds : UInt64) : Prop := 2 ^ 63 ≤ now / 1000000000 + seconds.toNat

instance (duration : Nat) (seconds : UInt64) : Decidable (Late duration seconds) :=
  inferInstanceAs (Decidable (_ ≤ _))

instance (now : Nat) (seconds : UInt64) : Decidable (Beyond now seconds) := inferInstanceAs (Decidable (_ ≤ _))

/-- A collector, and what a client meets that waits some seconds for it. -/
inductive Meets (k : Course) (seconds : UInt64) : Collector → Collector → Prop
  | unreachable : Meets k seconds .unreachable .unreachable
  | closed : Meets k seconds (.listening .close) (.listening .close)
  | inTime {status compressed body transfer} : ¬Late k.head seconds → ¬Late k.body seconds →
      Meets k seconds (.listening (.answer status compressed body transfer))
        (.listening (.answer status compressed body transfer))
  /-- Without a head there is no answer. -/
  | lateHead {status compressed body transfer} : Late k.head seconds →
      Meets k seconds (.listening (.answer status compressed body transfer)) (.listening .close)
  /-- A head alone is not the whole answer. -/
  | lateBody {status compressed body transfer} : ¬Late k.head seconds → Late k.body seconds →
      Meets k seconds (.listening (.answer status compressed body transfer))
        (.listening (.answer status compressed body .cut))

/-- A wait of some seconds that the clock cannot show the end of. -/
inductive BreaksDown (k : Course) (seconds : UInt64) (q : Request) : Collector → Prop
  /-- Every request is waited for at first. -/
  | head {c : Collector} : Beyond k.start seconds → BreaksDown k seconds q c
  /-- A body is waited for once the head is there. -/
  | body {status compressed body transfer} : q.isSendable = true → q.url.scheme = .http → ¬Late k.head seconds →
      Beyond (k.start + k.head) seconds → BreaksDown k seconds q (.listening (.answer status compressed body transfer))

theorem isLate_iff {duration : Nat} : isLate duration seconds = true ↔ Late duration seconds := by
  rw [isLate, decide_eq_true_iff, second, Late]

theorem isBeyond_iff {now : Nat} : isBeyond now seconds = true ↔ Beyond now seconds := by
  rw [isBeyond, decide_eq_true_iff, second, lastSecond, Beyond]
  omega

/-! ## What is met -/

theorem meets_iff {m : Collector} : k.Meets seconds c m ↔ m = k.seen seconds c := by
  constructor
  · intro h
    cases h with
    | unreachable | closed => rfl
    | inTime hhead hbody => rw [seen, if_neg (mt isLate_iff.1 hhead), if_neg (mt isLate_iff.1 hbody)]
    | lateHead hhead => rw [seen, if_pos (isLate_iff.2 hhead)]
    | lateBody hhead hbody => rw [seen, if_neg (mt isLate_iff.1 hhead), if_pos (isLate_iff.2 hbody)]
  · rintro rfl
    cases c with
    | unreachable => exact .unreachable
    | listening reply =>
      cases reply with
      | close => exact .closed
      | answer status compressed body transfer =>
        rw [seen]
        split
        · next hhead => exact .lateHead (isLate_iff.1 hhead)
        next hhead =>
        split
        · next hbody => exact .lateBody (mt isLate_iff.2 hhead) (isLate_iff.1 hbody)
        · next hbody => exact .inTime (mt isLate_iff.2 hhead) (mt isLate_iff.2 hbody)

theorem meets_seen (k : Course) (seconds : UInt64) (c : Collector) : k.Meets seconds c (k.seen seconds c) :=
  meets_iff.2 rfl

/-- The whole of an answer that is met is the whole of the answer that there is. -/
theorem Meets.brings {m : Collector} {body : Bytes} (h : k.Meets seconds c m) (hm : Brings q m body) :
    Brings q c body := by
  obtain ⟨hsendable, hplain, hcompletes⟩ := hm
  refine ⟨hsendable, hplain, ?_⟩
  cases h with
  | unreachable | closed | inTime => exact hcompletes
  | lateHead => cases hcompletes
  | lateBody =>
    cases hcompletes with
    | bodiless hstatus => exact .bodiless hstatus

theorem Meets.passes {r : Record} {d : Deployment} {m : Collector} {a : Ack} (h : k.Meets seconds c m)
    (hm : Passes r d m q a) : Passes r d c q a := by
  obtain ⟨hbuild, ⟨body, hbrings, hparse⟩, hcode⟩ := hm
  exact ⟨hbuild, ⟨body, h.brings hbrings, hparse⟩, hcode⟩

/-! ## Breakdowns -/

theorem breaksDown_iff : k.breaksDown seconds c q = true ↔ k.BreaksDown seconds q c := by
  rw [breaksDown, Bool.or_eq_true, isBeyond_iff]
  constructor
  · rintro (h | h)
    · exact .head h
    · split at h
      · next hseen hscheme =>
        rw [Bool.and_eq_true, isBeyond_iff] at h
        have hmeets := meets_iff.2 hseen.symm
        cases hmeets with
        | inTime hhead _ => exact .body h.1 hscheme hhead h.2
        | lateBody hhead _ => exact .body h.1 hscheme hhead h.2
      · cases h
  · intro h
    cases h with
    | head h => exact .inl h
    | body hsendable hscheme hhead h =>
      rw [seen, if_neg (mt isLate_iff.1 hhead), hscheme]
      exact .inr (by rw [Bool.and_eq_true, isBeyond_iff]; exact ⟨hsendable, h⟩)

/-- A client lasts if the clock can show the ends of both waits. -/
theorem not_breaksDown (hhead : ¬Beyond k.start seconds) (hbody : ¬Beyond (k.start + k.head) seconds) :
    ¬k.BreaksDown seconds q c := by
  intro h
  cases h with
  | head h => exact hhead h
  | body _ _ _ h => exact hbody h

/-- Of a request only its address decides whether the client breaks down. -/
theorem breaksDown_congr {p : Request} (h : p.url = q.url) :
    k.breaksDown seconds c p = k.breaksDown seconds c q := by
  have hsendable : p.isSendable = q.isSendable := by rw [Request.isSendable, h, Request.isSendable]
  rw [breaksDown, breaksDown, h, hsendable]

theorem receivedBefore_cases (k : Course) (seconds : UInt64) (c : Collector) (q : Request) :
    k.receivedBefore seconds c q = [] ∨ k.receivedBefore seconds c q = [q.received] := by
  rw [receivedBefore]
  split
  · exact .inl rfl
  · exact received_exchange q c

end Course

/-! ## Deliveries -/

namespace Sink

variable {s : Sink} {r : Record}

theorem deliver_of_not_build {e : Failure} (h : Request.build r s.deployment = .error e) :
    s.deliver k seconds r c = .attempt (s.write r (k.seen seconds c)) := by
  rw [deliver, h]
  rfl

theorem deliver_of_build (h : Request.build r s.deployment = .ok q) : s.deliver k seconds r c =
    if k.breaksDown seconds c q then .breakdown (k.receivedBefore seconds c q)
    else .attempt (s.write r (k.seen seconds c)) := by
  rw [deliver, h, Except.toOption, Option.filter_some]
  cases k.breaksDown seconds c q <;> rfl

theorem deliver_of_breaksDown (hq : Request.build r s.deployment = .ok q) (h : k.BreaksDown seconds q c) :
    s.deliver k seconds r c = .breakdown (k.receivedBefore seconds c q) := by
  rw [deliver_of_build hq, if_pos (breaksDown_iff.2 h)]

theorem deliver_of_not_breaksDown (h : ∀ q, Request.build r s.deployment = .ok q → ¬k.BreaksDown seconds q c) :
    s.deliver k seconds r c = .attempt (s.write r (k.seen seconds c)) := by
  cases hq : Request.build r s.deployment with
  | error e => exact deliver_of_not_build hq
  | ok q => rw [deliver_of_build hq, if_neg (mt breaksDown_iff.1 (h q hq))]

end Sink

namespace Program

variable {w : Surroundings} {i : CommandLine.Invocation} {s : Settings} {r : Record}

/-- The command `write`, by how its delivery ends. The client waits for ten seconds if the settings do not say. -/
theorem write_of_breaksDown (hq : Request.build r s.deployment = .ok q)
    (h : w.course.BreaksDown (s.timeout.getD 10) q w.collector) : write w i s r =
      { brokenDown w with
        logs := logged w.environment i s [Log.Event.writing r s.deployment]
        received := w.course.receivedBefore (s.timeout.getD 10) w.collector q } := by
  have hdeliver := Sink.deliver_of_breaksDown (s := ⟨s.deployment, .custom⟩) hq h
  exact congrArg (ofDelivery w i s r) hdeliver

theorem write_of_not_breaksDown (h : ∀ q, Request.build r s.deployment = .ok q →
      ¬w.course.BreaksDown (s.timeout.getD 10) q w.collector) :
    write w i s r = ofAttempt w i s r
      (Sink.write ⟨s.deployment, .custom⟩ r (w.course.seen (s.timeout.getD 10) w.collector)) := by
  have hdeliver := Sink.deliver_of_not_breaksDown (s := ⟨s.deployment, .custom⟩) h
  exact congrArg (ofDelivery w i s r) hdeliver

/-- A request that breaks the client down, or none. -/
theorem breaksDown_or_not (w : Surroundings) (s : Settings) (r : Record) :
    (∃ q, Request.build r s.deployment = .ok q ∧ w.course.BreaksDown (s.timeout.getD 10) q w.collector) ∨
      ∀ q, Request.build r s.deployment = .ok q → ¬w.course.BreaksDown (s.timeout.getD 10) q w.collector := by
  by_cases h : ∃ q, Request.build r s.deployment = .ok q ∧ w.course.BreaksDown (s.timeout.getD 10) q w.collector
  · exact .inl h
  · exact .inr fun q hq hb => h ⟨q, hq, hb⟩

/-- What is received of a record is its request, or nothing. -/
theorem received_write (w : Surroundings) (i : CommandLine.Invocation) (s : Settings) (r : Record) :
    (write w i s r).received = [] ∨
      ∃ q, Request.build r s.deployment = .ok q ∧ (write w i s r).received = [q.received] := by
  rcases breaksDown_or_not w s r with ⟨q, hq, hbreaks⟩ | hlasts
  · rw [write_of_breaksDown hq hbreaks]
    exact (Course.receivedBefore_cases _ _ _ _).imp id fun h => ⟨q, hq, h⟩
  · rw [write_of_not_breaksDown hlasts]
    exact (Sink.received_write ⟨s.deployment, .custom⟩ r _).imp id fun ⟨q, hq, h, _⟩ => ⟨q, hq, h⟩

end Program

end QueryAudit
