import QueryAudit.Proofs.Outcome
import QueryAudit.Settings.File
/-!
# What a configuration file gives

`get_of_ofEntries`, `timeout_of_ofEntries`: the fields of the deployment and the time to wait are exactly what
stands under their keys in the table of the collector. `load_eq_ok_iff`: a file can be loaded exactly if it is
there, is text, is TOML, has values of the right kinds and does not ask to wait no time at all.
-/

namespace QueryAudit

namespace Toml

/-- The node of a name in a table. If it could be there twice, the last one would count. -/
def nodeAt (es : Entries) (name : String) : Option Node := (es.reverse.find? (·.1.name == name)).map (·.2)

namespace Node

/-- The entries of a table; anything else has none. -/
def entries : Node → Entries
  | table _ _ es => es
  | _ => []

/-- The text of a node, if it is one. -/
def text? : Node → Option String
  | scalar (.text s) _ => some s
  | _ => none

/-- The number of seconds that a node gives. -/
def seconds? : Node → Option UInt64
  | scalar (.integer n) _ => some (.ofNat n.toNat)
  | _ => none

theorem found_eq_text_iff {node : Node} {s : String} :
    node.found = .text s ↔ ∃ span, node = .scalar (.text s) span := by
  constructor
  · intro h
    unfold found at h
    split at h <;> simp_all
  · rintro ⟨span, rfl⟩
    rfl

theorem found_eq_integer_iff {node : Node} {n : Int} :
    node.found = .integer n ↔ ∃ span, node = .scalar (.integer n) span := by
  constructor
  · intro h
    unfold found at h
    split at h <;> simp_all
  · rintro ⟨span, rfl⟩
    rfl

end Node

/-- The value that stands under a name in a table. -/
def valueAt (es : Entries) (name : String) : Option Found := (nodeAt es name).map Node.found

theorem nodeAt_cons (e : Key × Node) (es : Entries) (name : String) :
    nodeAt (e :: es) name = (nodeAt es name <|> if e.1.name = name then some e.2 else none) := by
  rw [nodeAt, List.reverse_cons, List.find?_append]
  by_cases h : e.1.name = name
  · cases hes : es.reverse.find? (·.1.name == name) <;> simp [nodeAt, hes, h]
  · cases hes : es.reverse.find? (·.1.name == name) <;> simp [nodeAt, hes, h]

section fold

variable {σ ε β : Type} {f : σ → Key × Node → Except ε σ} (get : σ → β) (name : String) {es : Entries} {s s' : σ}

/-- Reading a table entry by entry: what the entries of one name alone have a part in is what the last of them
means, or else what it was before. -/
theorem means_of_foldlM (means : Node → β → Prop)
    (hset : ∀ e ∈ es, e.1.name = name → ∀ s s', f s e = .ok s' → means e.2 (get s'))
    (hkeep : ∀ e ∈ es, e.1.name ≠ name → ∀ s s', f s e = .ok s' → get s' = get s) (h : es.foldlM f s = .ok s') :
    (nodeAt es name).elim (get s' = get s) (means · (get s')) := by
  induction es generalizing s with
  | nil =>
    cases h
    rfl
  | cons e es ih =>
    rw [List.foldlM_cons] at h
    obtain ⟨t, ht, h⟩ := bind_eq_ok_iff.1 h
    have hlast := ih (fun e he => hset e (List.mem_cons_of_mem _ he))
      (fun e he => hkeep e (List.mem_cons_of_mem _ he)) h
    rw [nodeAt_cons]
    -- The first entry counts only if no other behind it has the name.
    cases hnode : nodeAt es name with
    | some node => simpa [hnode] using hlast
    | none =>
      rw [hnode] at hlast
      change get s' = get t at hlast
      by_cases he : e.1.name = name
      · simpa [he, hlast] using hset e List.mem_cons_self he s t ht
      · simpa [he, hlast] using hkeep e List.mem_cons_self he s t ht

end fold

end Toml

namespace Settings

open Toml

/-- The table of the collector in a document. -/
def collectorTable (es : Entries) : Entries := (nodeAt es "splunk").elim [] Node.entries

/-- The text that a document gives a field. -/
def givenText (es : Entries) (f : Deployment.Field) : Option String :=
  (nodeAt (collectorTable es) f.key).bind Node.text?

/-- The time to wait that a document gives. -/
def givenTimeout (es : Entries) : Option UInt64 := (nodeAt (collectorTable es) timeoutKey).bind Node.seconds?

/-! ## Tables -/

theorem ofKey?_eq_some_iff {k : String} {f : Deployment.Field} : Deployment.Field.ofKey? k = some f ↔ k = f.key := by
  constructor
  · intro h
    have := List.find?_some h
    exact (by simpa using this : f.key = k).symm
  · rintro rfl
    cases f <;> rfl

/-- What a value that may be missing stands for: what it means, or else what counts without it. -/
def Stands {α : Type} (means : Found → α → Prop) (absent : α) (x : Option Found) (a : α) : Prop :=
  x.elim (a = absent) (means · a)

/-- A value is a text. -/
def IsText (x : Found) (s : String) : Prop := x = .text s

/-- A value is a number of seconds, counted in 64 bits. -/
def IsSeconds (x : Found) (t : Option UInt64) : Prop := ∃ n : Int, 0 ≤ n ∧ x = .integer n ∧ t = some (.ofNat n.toNat)

section stands

variable {σ α ε : Type} {es : Entries} {name : String}

theorem stands_valueAt {means : Found → α → Prop} {absent a : α} : Stands means absent (valueAt es name) a ↔
    (nodeAt es name).elim (a = absent) fun node => means node.found a := by
  rw [Stands, valueAt, Option.elim_map]
  rfl

theorem stands_of_foldlM {f : σ → Key × Node → Except ε σ} {s s' : σ} (get : σ → α) (means : Found → α → Prop)
    (hset : ∀ e ∈ es, e.1.name = name → ∀ s s', f s e = .ok s' → means e.2.found (get s'))
    (hkeep : ∀ e ∈ es, e.1.name ≠ name → ∀ s s', f s e = .ok s' → get s' = get s) (h : es.foldlM f s = .ok s') :
    Stands means (get s) (valueAt es name) (get s') :=
  stands_valueAt.2 (means_of_foldlM get name (fun node => means node.found) hset hkeep h)

theorem Stands.text {v : String} (h : Stands IsText "" (valueAt es name) v) :
    v = ((nodeAt es name).bind Node.text?).getD "" := by
  rw [stands_valueAt] at h
  cases hnode : nodeAt es name with
  | none => simpa [hnode] using h
  | some node =>
    rw [hnode] at h
    obtain ⟨span, rfl⟩ := Node.found_eq_text_iff.1 h
    rfl

theorem Stands.seconds {t : Option UInt64} (h : Stands IsSeconds none (valueAt es name) t) :
    t = (nodeAt es name).bind Node.seconds? := by
  rw [stands_valueAt] at h
  cases hnode : nodeAt es name with
  | none => simpa [hnode] using h
  | some node =>
    rw [hnode] at h
    obtain ⟨n, -, hfound, rfl⟩ := h
    obtain ⟨span, rfl⟩ := Node.found_eq_integer_iff.1 hfound
    rfl

end stands

theorem get_empty (f : Deployment.Field) : ({} : Deployment).get f = "" := by
  cases f <;> rfl

/-- A field is what the text under its key says, and empty without one. -/
theorem stands_of_readFields {span : Span} {es : Entries} {d : Deployment} (h : readFields span es = .ok d)
    (f : Deployment.Field) : Stands IsText "" (valueAt es f.key) (d.get f) := by
  refine get_empty f ▸ stands_of_foldlM (·.get f) IsText ?_ ?_ h
  · rintro ⟨key, node⟩ - hkey d d' h
    dsimp only at h ⊢
    rw [ofKey?_eq_some_iff.2 hkey] at h
    dsimp only at h
    split at h
    · cases h
      rw [Deployment.get_set, if_pos rfl]
      rfl
    · cases h
  · rintro ⟨key, node⟩ - hne d d' h
    dsimp only at h ⊢
    split at h
    · cases h
      rfl
    · next g hkey =>
      split at h
      · cases h
        rw [Deployment.get_set, if_neg]
        rintro rfl
        exact hne (ofKey?_eq_some_iff.1 hkey)
      · cases h

theorem stands_of_readTimeouts {es : Entries} {t : Option UInt64} (h : readTimeouts es = .ok t) :
    Stands IsSeconds none (valueAt es timeoutKey) t := by
  refine stands_of_foldlM id IsSeconds ?_ ?_ h
  · rintro ⟨key, node⟩ - hkey t t' h
    dsimp only at h ⊢
    rw [if_pos hkey] at h
    obtain ⟨n, hn, rfl⟩ := map_eq_ok_iff.1 h
    unfold readTimeout at hn
    split at hn
    · split at hn
      · cases hn
      · next n _ hneg =>
        cases hn
        exact ⟨n, by omega, rfl, rfl⟩
    · cases hn
  · rintro ⟨key, node⟩ - hne t t' h
    dsimp only at h ⊢
    rw [if_neg hne] at h
    cases h
    rfl

/-- The table of the collector gives the deployment and the time. -/
structure GivesCollector (node : Node) (d : Deployment) (t : Option UInt64) : Prop where
  table : node.found = .map
  get f : Stands IsText "" (valueAt node.entries f.key) (d.get f)
  timeout : Stands IsSeconds none (valueAt node.entries timeoutKey) t

theorem collector_of_readCollector {key : Key} {node : Node} {d : Deployment} {t : Option UInt64}
    (h : readCollector key node = .ok (d, t)) : GivesCollector node d t := by
  unfold readCollector at h
  split at h
  · obtain ⟨t', ht, h⟩ := bind_eq_ok_iff.1 h
    obtain ⟨d', hd, h⟩ := bind_eq_ok_iff.1 h
    cases h
    exact ⟨rfl, stands_of_readFields hd, stands_of_readTimeouts ht⟩
  · cases h
    exact ⟨rfl, get_empty, rfl⟩
  · cases h

/-! ## Documents -/

/-- Only the table of the collector has a part in the deployment and in the time. -/
theorem collector_of_ofEntries {es : Entries} {s : Settings} (h : ofEntries es = .ok s) :
    (nodeAt es "splunk").elim ((s.deployment, s.timeout) = ({}, none)) (GivesCollector · s.deployment s.timeout) := by
  refine means_of_foldlM (fun s => (s.deployment, s.timeout)) "splunk"
    (fun node p => GivesCollector node p.1 p.2) ?_ ?_ h
  · rintro ⟨key, node⟩ - hkey s s' h
    dsimp only [readEntry] at h ⊢
    rw [if_pos hkey] at h
    obtain ⟨⟨d, t⟩, hd, h⟩ := bind_eq_ok_iff.1 h
    cases h
    exact collector_of_readCollector hd
  · rintro ⟨key, node⟩ - hne s s' h
    dsimp only [readEntry] at h ⊢
    rw [if_neg hne] at h
    split at h
    · obtain ⟨l, -, h⟩ := bind_eq_ok_iff.1 h
      cases h
      rfl
    · cases h
      rfl

theorem stands_of_ofEntries {es : Entries} {s : Settings} (h : ofEntries es = .ok s) :
    (∀ f, Stands IsText "" (valueAt (collectorTable es) f.key) (s.deployment.get f)) ∧
      Stands IsSeconds none (valueAt (collectorTable es) timeoutKey) s.timeout := by
  have hcollector := collector_of_ofEntries h
  rw [collectorTable]
  cases hnode : nodeAt es "splunk" with
  | none =>
    rw [hnode] at hcollector
    obtain ⟨hd, ht⟩ := Prod.mk.inj hcollector
    exact ⟨fun f => hd ▸ get_empty f, ht⟩
  | some node =>
    rw [hnode] at hcollector
    exact ⟨hcollector.get, hcollector.timeout⟩

theorem get_of_ofEntries {es : Entries} {s : Settings} (h : ofEntries es = .ok s) (f : Deployment.Field) :
    s.deployment.get f = (givenText es f).getD "" :=
  ((stands_of_ofEntries h).1 f).text

theorem timeout_of_ofEntries {es : Entries} {s : Settings} (h : ofEntries es = .ok s) :
    s.timeout = givenTimeout es :=
  (stands_of_ofEntries h).2.seconds

/-! ## Files -/

/-- The complaint about a time of nothing. -/
def zeroTimeout : Failure := .invalidConfig "splunk.timeout_secs must be greater than zero"

theorem validate_eq (s : Settings) : s.validate = if s.timeout = some 0 then .error zeroTimeout else .ok () := rfl

/-- A file that is there, is text and is TOML with values of the right kinds is judged by its time alone. -/
theorem load_of_ofEntries {files : FileTree} {path : Bytes} {content : Bytes} {text : List Char} {es : Entries}
    {s : Settings} (hfind : files.find? path = some (.file content)) (htext : Utf8.decode? content = some text)
    (hparse : Document.parse? text = some es) (hs : ofEntries es = .ok s) :
    load files path = if s.timeout = some 0 then .error zeroTimeout else .ok s := by
  by_cases hzero : s.timeout = some 0
  · simp only [load, hfind, htext, ofText, hparse, hs, validate_eq, if_pos hzero, bind, Except.bind]
  · simp only [load, hfind, htext, ofText, hparse, hs, validate_eq, if_neg hzero, bind, Except.bind, pure, Except.pure]

theorem load_eq_ok_iff {files : FileTree} {path : Bytes} {s : Settings} : load files path = .ok s ↔
    ∃ content text es, files.find? path = some (.file content) ∧ Utf8.decode? content = some text ∧
      Document.parse? text = some es ∧ ofEntries es = .ok s ∧ s.timeout ≠ some 0 := by
  constructor
  · intro h
    unfold load at h
    split at h
    · cases h
    · cases h
    · next content hfind =>
      split at h
      · cases h
      · next text htext =>
        obtain ⟨s', hs', h⟩ := bind_eq_ok_iff.1 h
        obtain ⟨⟨⟩, hv, h⟩ := bind_eq_ok_iff.1 h
        cases h
        rw [validate_eq] at hv
        unfold ofText at hs'
        split at hs'
        · cases hs'
        · next es hes =>
          split at hs'
          · cases hs'
          · next hof =>
            cases hs'
            refine ⟨content, text, es, hfind, htext, hes, hof, fun hzero => ?_⟩
            rw [if_pos hzero] at hv
            cases hv
  · rintro ⟨content, text, es, hfind, htext, hes, hof, hzero⟩
    rw [load_of_ofEntries hfind htext hes hof, if_neg hzero]

end Settings

end QueryAudit
