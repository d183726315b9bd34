import QueryAudit.Proofs.CommandLine
import QueryAudit.Proofs.Json.Render
import QueryAudit.Proofs.Waiting
/-!
# What is shown is what is sent

`envelope_previews_write`: the command `envelope` prints one line, and it is the body of every request that the
command `write` with the same arguments gets through to the collector. The line depends on the record and on the
place it comes from, and on nothing else.
-/

namespace QueryAudit

/-- No control character gets into the text of a body. -/
theorem Envelope.le_of_mem_toText (e : Envelope) {c : Char} (h : c ∈ e.toText.toList) : 0x20 ≤ c.toNat := by
  rw [toText, Json.Value.toText, String.toList_ofList] at h
  exact Json.Value.le_of_mem_render _ h

/-- A request has the body of its event. -/
theorem Request.body_of_build {r : Record} {d : Deployment} {q : Request} (h : Request.build r d = .ok q) :
    q.body = (Envelope.ofRecord r d).body := by
  obtain ⟨url, -, -, hq⟩ := build_eq_ok_iff.1 h
  rw [hq]

namespace Program

open CommandLine

variable {w : Surroundings} {i : Invocation} {s : Settings} {r : RecordOptions}

/-- What is received has the body of the record. -/
theorem body_of_mem_received {r : Record} {p : Received} (h : p ∈ (write w i s r).received) :
    p.body = octets (Envelope.ofRecord r s.deployment).toText := by
  rcases received_write w i s r with hnone | ⟨q, hq, hone⟩
  · rw [hnone] at h
    cases h
  · rw [hone, List.mem_singleton] at h
    rw [h]
    exact Request.body_of_build hq

/-- A time that is given is the time of the record. -/
theorem record_of_timestamp {t : Int64} (h : r.timestamp = some t) (now : Int64) :
    r.record now = ⟨r.query, r.user, t⟩ := by
  rw [RecordOptions.record, h, Option.getD_some]

/-! ## The preview -/

/-- Both runs fail alike, and nothing is sent. -/
structure FailAlike (x y : Run) : Prop where
  exitCode : x.exitCode = 1 ∧ y.exitCode = 1
  stderr : x.stderr = y.stderr
  received : x.received = [] ∧ y.received = []

/-- A run prints a body on one line and sends nothing, and what another run gets through has that body. -/
structure Previews (body : String) (x y : Run) : Prop where
  exitCode : x.exitCode = 0
  stdout : x.stdout = body ++ "\n"
  /-- Neither a line break nor a code for colours. -/
  printable : ∀ c ∈ body.toList, 0x20 ≤ c.toNat
  received : x.received = []
  sent : ∀ p ∈ y.received, p.body = octets body

/-- Two deployments say the same about where events come from and which index they go to. -/
structure SameOrigin (d d' : Deployment) : Prop where
  index : d.index = d'.index
  host : d.host = d'.host
  podNamespace : d.podNamespace = d'.podNamespace
  pod : d.pod = d'.pod

theorem ofRecord_sameOrigin (r : Record) {d d' : Deployment} (h : SameOrigin d d') :
    Envelope.ofRecord r d = Envelope.ofRecord r d' := by
  rw [Envelope.ofRecord, h.index, h.host, h.podNamespace, h.pod, Envelope.ofRecord]

theorem previews_of_gather (hs : Settings.gather w.files w.environment i = .ok s) (hr : i.command = .envelope r)
    {t : Int64} (ht : r.timestamp = some t) (now : Int64) (collector : Collector) :
    Previews (Envelope.ofRecord ⟨r.query, r.user, t⟩ s.deployment).toText (perform w i)
      (perform { w with now, collector } { i with command := .write r }) := by
  -- The command has no part in where settings come from.
  have hy := perform_write (w := { w with now, collector }) (i := { i with command := .write r }) hs rfl
  rw [perform_envelope hs hr, hy, record_of_timestamp ht, record_of_timestamp ht]
  exact {
    exitCode := rfl
    stdout := rfl
    printable := fun c => Envelope.le_of_mem_toText _
    received := rfl
    sent := fun p => body_of_mem_received }

/-- The preview of a record with a time of its own. The command `envelope` becomes the command `write` with
otherwise the same arguments by its name alone. Where the files and variables are the same, both fail alike, or
the one prints the body that the other gets through, whenever that runs and whatever the collector does. Of all
settings the preview depends on the origin of the event only. -/
theorem envelope_previews_write {args : List String} {i : Invocation} {r : RecordOptions} {t : Int64}
    (h : read args = .ok i) (hr : i.command = .envelope r) (ht : r.timestamp = some t) :
    (∃ before behind, args = before ++ "envelope" :: behind ∧
      read (before ++ "write" :: behind) = .ok { i with command := .write r }) ∧
    (∀ args' w now collector, read args' = .ok { i with command := .write r } →
      let x := run w args
      let y := run { w with now, collector } args'
      (∃ f, Settings.gather w.files w.environment i = .error f ∧ FailAlike x y) ∨
        ∃ s, Settings.gather w.files w.environment i = .ok s ∧ ∃ body, Previews body x y) ∧
    ∀ w w' args' i' s s', read args' = .ok i' → i'.command = .envelope r →
      Settings.gather w.files w.environment i = .ok s → Settings.gather w'.files w'.environment i' = .ok s' →
      SameOrigin s.deployment s'.deployment → (run w args).stdout = (run w' args').stdout := by
  refine ⟨read_write_of_envelope h hr, fun args' w now collector h' => ?_,
    fun w w' args' i' s s' h' hr' hs hs' horigin => ?_⟩
  · simp only [run_of_read h, run_of_read h']
    cases hs : Settings.gather w.files w.environment i with
    | error f =>
      have hy : perform { w with now, collector } { i with command := .write r } = failed { w with now, collector } f :=
        perform_of_not_gather (w := { w with now, collector }) hs
      rw [perform_of_not_gather hs, hy]
      exact .inl ⟨f, rfl, ⟨rfl, rfl⟩, rfl, rfl, rfl⟩
    | ok s => exact .inr ⟨s, rfl, _, previews_of_gather hs hr ht now collector⟩
  · rw [run_of_read h, run_of_read h', perform_envelope hs hr, perform_envelope hs' hr', record_of_timestamp ht,
      record_of_timestamp ht, ofRecord_sameOrigin _ horigin]

/-- A query with a line break in it, at a time before the epoch, for a collector that answers. -/
theorem envelope_previews_write_lines :
    let w : Surroundings := ⟨⟨[], none⟩, ⟨[], none⟩, 0, .listening (.answer 200 false [0x7B, 0x7D] .whole), {},
      ⟨fun _ => "", id⟩⟩
    let arguments (command : String) := ["--endpoint=http://c", command, "--query=a\nb", "--timestamp=-5"]
    ∃ body, Previews body (run w (arguments "envelope")) (run w (arguments "write")) := by
  intro w arguments
  let asked (c : CommandName) : Invocation := assemble c { values := [(.field .endpoint, "http://c")] }
    { values := [(.timestamp, "-5"), (.query, "a\nb")] }
  have hx : CommandLine.read (arguments "envelope") = .ok (asked .envelope) := rfl
  have hy : CommandLine.read (arguments "write") = .ok (asked .write) := rfl
  have hs : ∃ s, Settings.gather w.files w.environment (asked .envelope) = .ok s := ⟨_, rfl⟩
  rcases (envelope_previews_write (t := -5) hx rfl rfl).2.1 (arguments "write") w w.now w.collector hy with
    ⟨f, hf, -⟩ | ⟨s, -, h⟩
  · obtain ⟨s, hs⟩ := hs
    rw [hs] at hf
    cases hf
  · exact h

end Program

end QueryAudit
