import QueryAudit.Envelope
import QueryAudit.Proofs.Json.Render
/-!
# The body tells everything and nothing else

`body_lossless`: the body of an event is JSON that reads back as exactly the record and the place it comes
from. So two bodies are equal only if everything in them is, and no text can leave its own quotation marks.
-/

namespace QueryAudit.Envelope

open Json

/-- A member whose value is a text. -/
def textMember (key value : String) : List Char × Json.Tree (List Char) := (key.toList, .text value.toList)

/-- What an event says: the query, who ran it and in which pod. -/
def eventTree (r : Record) (d : Deployment) : Json.Tree (List Char) :=
  .object [textMember "query" r.query, textMember "user" r.user, textMember "namespace" d.podNamespace,
    textMember "pod" d.pod]

/-- The index is named only if there is one. -/
def indexTrees (d : Deployment) : List (List Char × Json.Tree (List Char)) :=
  if d.index = "" then [] else [textMember "index" d.index]

/-- What a body says, with the digits of its time. -/
def bodyTree (r : Record) (d : Deployment) (time : Bytes) : Json.Tree (List Char) :=
  .object ([("event".toList, eventTree r d), textMember "sourcetype" "_json", textMember "host" d.host] ++
    indexTrees d ++ [("time".toList, .number time)])

/-- Two bodies say the same. -/
def Agree (r r' : Record) (d d' : Deployment) : Prop :=
  r.query = r'.query ∧ r.user = r'.user ∧ r.timestamp = r'.timestamp ∧ d.podNamespace = d'.podNamespace ∧
    d.pod = d'.pod ∧ d.host = d'.host ∧ d.index = d'.index

theorem textMember_inj {key value value' : String} (h : textMember key value = textMember key value') :
    value = value' := by
  simp only [textMember, Prod.mk.injEq, Tree.text.injEq, String.toList_inj, true_and] at h
  exact h

theorem indexTrees_inj {d d' : Deployment} {a b : List Char × Json.Tree (List Char)}
    (h : indexTrees d ++ [a] = indexTrees d' ++ [b]) : d.index = d'.index ∧ a = b := by
  obtain ⟨hi, hab⟩ := List.append_inj' h rfl
  refine ⟨?_, List.singleton_inj.1 hab⟩
  unfold indexTrees at hi
  split at hi
  · next h0 =>
    split at hi
    · next h0' => rw [h0, h0']
    · cases hi
  · split at hi
    · cases hi
    · exact textMember_inj (List.singleton_inj.1 hi)

/-- The tree of a body tells the texts in it, and the digits of the time. -/
theorem bodyTree_inj {r r' : Record} {d d' : Deployment} {time time' : Bytes}
    (h : bodyTree r d time = bodyTree r' d' time') :
    (r.query = r'.query ∧ r.user = r'.user ∧ d.podNamespace = d'.podNamespace ∧ d.pod = d'.pod) ∧
      d.host = d'.host ∧ d.index = d'.index ∧ time = time' := by
  simp only [bodyTree, Tree.object.injEq, List.cons_append, List.nil_append, List.cons.injEq, Prod.mk.injEq,
    true_and] at h
  obtain ⟨hevent, hhost, hrest⟩ := h
  obtain ⟨hindex, htime⟩ := indexTrees_inj hrest
  simp only [eventTree, Tree.object.injEq, List.cons.injEq] at hevent
  obtain ⟨hquery, huser, hnamespace, hpod, -⟩ := hevent
  simp only [Prod.mk.injEq, Tree.number.injEq, true_and] at htime
  exact ⟨⟨textMember_inj hquery, textMember_inj huser, textMember_inj hnamespace, textMember_inj hpod⟩,
    textMember_inj hhost, hindex, htime⟩

/-- The body is the text of a value. -/
theorem body_eq (e : Envelope) : e.body = Utf8.encode e.value.render := by
  rw [body, toText, Value.toText, octets, String.toList_ofList]

/-- The tree of that value. -/
theorem value_tree (r : Record) (d : Deployment) :
    (ofRecord r d).value.tree = bodyTree r d (Utf8.encode (Numeral.signedDecimal r.timestamp.toInt)) := by
  by_cases h : d.index = ""
  · simp [value, event, indexMember, ofRecord, bodyTree, eventTree, indexTrees, textMember, Value.tree, Value.trees,
      Value.ofMembers, Value.ofString, sourceType, h]
  · simp [value, event, indexMember, ofRecord, bodyTree, eventTree, indexTrees, textMember, Value.tree, Value.trees,
      Value.ofMembers, Value.ofString, sourceType, h]

/-- What reads as the body of an event is its tree. -/
theorem eq_bodyTree_of_isText {r : Record} {d : Deployment} {t : Json.Tree (List Char)}
    (h : IsText .standard t (ofRecord r d).body) :
    t = bodyTree r d (Utf8.encode (Numeral.signedDecimal r.timestamp.toInt)) := by
  rw [body_eq] at h
  rw [Value.eq_tree_of_isText h, value_tree]

theorem isText_body (r : Record) (d : Deployment) :
    IsText .compact (bodyTree r d (Utf8.encode (Numeral.signedDecimal r.timestamp.toInt))) (ofRecord r d).body := by
  rw [body_eq, ← value_tree]
  exact Value.isText_render _

/-- Bodies are equal exactly if they say the same. -/
theorem body_eq_iff {r r' : Record} {d d' : Deployment} :
    (ofRecord r d).body = (ofRecord r' d').body ↔ Agree r r' d d' := by
  constructor
  · intro h
    have ht := eq_bodyTree_of_isText (h ▸ isText_body r d).standard
    obtain ⟨⟨hquery, huser, hnamespace, hpod⟩, hhost, hindex, htime⟩ := bodyTree_inj ht
    have hn := isInteger_signedDecimal r.timestamp.toInt
    rw [htime] at hn
    exact ⟨hquery, huser, Int64.toInt_inj.1 (hn.unique (isInteger_signedDecimal _)), hnamespace, hpod, hhost, hindex⟩
  · rintro ⟨hquery, huser, htime, hnamespace, hpod, hhost, hindex⟩
    rw [ofRecord, ofRecord, hquery, huser, htime, hnamespace, hpod, hhost, hindex]

/-- The body of an event is JSON without blanks for exactly the tree that its record and its deployment make, with
the exact time; it tells all of that tree, and has no control character. -/
theorem body_lossless (r : Record) (d : Deployment) :
    (∃ time, IsInteger time r.timestamp.toInt ∧ IsText .compact (bodyTree r d time) (ofRecord r d).body ∧
        ∀ t, IsText .standard t (ofRecord r d).body → t = bodyTree r d time) ∧
      (∀ r' d', (ofRecord r d).body = (ofRecord r' d').body ↔ Agree r r' d d') ∧
      ∀ b ∈ (ofRecord r d).body, 0x20 ≤ b.toNat := by
  refine ⟨⟨_, isInteger_signedDecimal _, isText_body r d, fun t ht => eq_bodyTree_of_isText ht⟩,
    fun r' d' => body_eq_iff, fun b hb => ?_⟩
  rw [body_eq] at hb
  exact Utf8.le_of_mem_encode (fun c hc => Value.le_of_mem_render _ hc) hb

end QueryAudit.Envelope
