import QueryAudit.Proofs.Ack
import QueryAudit.Proofs.Json.Loose
import QueryAudit.Proofs.Json.ShapeComplete
/-!
# Every acknowledgment is read

`parse_eq_ok_iff`: a body is read as an acknowledgment exactly if it is written as that one. `parse_complete`:
every JSON text that says a code and a text is read as them, with the members in any order and other members
between them, and the code settles the fate of the event.
-/

namespace QueryAudit.Ack

open Json

/-! ## What JSON says -/

/-- The keys of the code. -/
def codeKeys : List (List Char) := ["Code".toList, "code".toList]

/-- The keys of the text. -/
def textKeys : List (List Char) := ["Text".toList, "text".toList]

/-- Members give a code: one of them as an integer, or none for zero. -/
inductive CodeIn (c : Int64) : List (List Char × Json.Tree (List Char)) → Prop
  | absent : c = 0 → CodeIn c []
  | given {key literal} : IsInteger literal c.toInt → CodeIn c [(key, .number literal)]

/-- Members give a text: one of them as it is, or none for the empty one. -/
inductive TextIn (s : String) : List (List Char × Json.Tree (List Char)) → Prop
  | absent : s = "" → TextIn s []
  | given {key} : TextIn s [(key, .text s.toList)]

/-- The body is JSON and says the code and the text of an answer: as an object, in which any other members may
stand anywhere, or as an array of the two. -/
inductive Says (body : Bytes) (a : Ack) : Prop
  | object {ms} : IsText .standard (.object ms) body → CodeIn a.code (ms.filter (·.1 ∈ codeKeys)) →
      TextIn a.text (ms.filter (·.1 ∈ textKeys)) → Says body a
  | array {literal} : IsText .standard (.list [.number literal, .text a.text.toList]) body →
      IsInteger literal a.code.toInt → Says body a

theorem codes_eq (ms : List (List Char × Json.Tree Bytes)) : codes ms = (ms.filter (·.1 ∈ codeKeys)).map (·.2) := by
  simp [codes, valuesOf, codeKeys, Bool.beq_eq_decide_eq]

theorem texts_eq (ms : List (List Char × Json.Tree Bytes)) : texts ms = (ms.filter (·.1 ∈ textKeys)).map (·.2) := by
  simp [texts, valuesOf, textKeys, Bool.beq_eq_decide_eq]

theorem CodeIn.gives {c : Int64} {ms' : List (List Char × Json.Tree Bytes)}
    {ms : List (List Char × Json.Tree (List Char))} (h : CodeIn c ms)
    (hd : List.Forall₂ (fun m' m => m'.1 = m.1 ∧ Denotes m'.2 m.2) ms' ms) :
    GivesCode (ms'.map (·.2)) c := by
  cases h with
  | absent h0 =>
    cases hd
    rw [h0]
    exact .absent
  | given hl =>
    cases hd with
    | cons hm hnil =>
      cases hnil
      rw [List.map_singleton, hm.2.eq_number]
      exact .given hl

theorem TextIn.gives {s : String} {ms' : List (List Char × Json.Tree Bytes)}
    {ms : List (List Char × Json.Tree (List Char))} (h : TextIn s ms)
    (hd : List.Forall₂ (fun m' m => m'.1 = m.1 ∧ Denotes m'.2 m.2) ms' ms) :
    GivesText (ms'.map (·.2)) s := by
  cases h with
  | absent h0 =>
    cases hd
    rw [h0]
    exact .absent
  | given =>
    cases hd with
    | cons hm hnil =>
      cases hnil
      obtain ⟨raw, he, hraw⟩ := hm.2.of_text
      rw [List.map_singleton, he]
      exact .given hraw

/-- What JSON says is written. -/
theorem Says.written {body : Bytes} {a : Ack} (h : Says body a) : Written body a := by
  cases h with
  | @object ms hms hcode htext =>
    obtain ⟨ms', hobject, hd⟩ := hms.isObject
    have hfilter (keys : List (List Char)) : List.Forall₂ (fun m' m => m'.1 = m.1 ∧ Denotes m'.2 m.2)
        (ms'.filter (·.1 ∈ keys)) (ms.filter (·.1 ∈ keys)) :=
      List.rel_filter (fun m' m hm => by simp [hm.1]) hd
    refine .object hobject ?_ ?_
    · rw [codes_eq]
      exact hcode.gives (hfilter codeKeys)
    · rw [texts_eq]
      exact htext.gives (hfilter textKeys)
  | array hts hl =>
    obtain ⟨ts, harray, hd⟩ := hts.isArray
    cases hd with
    | cons hcode hd =>
    cases hd with
    | cons htext hnil =>
    cases hnil
    obtain ⟨raw, rfl, hraw⟩ := htext.of_text
    obtain rfl := hcode.eq_number
    exact .array harray (by simp) (.given hl) (.given hraw)

/-! ## What is written is read -/

theorem GivesCode.eq_of_nil {c : Int64} (h : GivesCode [] c) : c = 0 := by
  cases h
  rfl

theorem GivesText.eq_of_nil {s : String} (h : GivesText [] s) : s = "" := by
  cases h
  rfl

theorem GivesCode.of_cons {t : Json.Tree Bytes} {ts : List (Json.Tree Bytes)} {c : Int64} (h : GivesCode (t :: ts) c) :
    ts = [] ∧ ∃ literal, t = .number literal ∧ IsInteger literal c.toInt := by
  cases h with
  | given hl => exact ⟨rfl, _, rfl, hl⟩

theorem GivesText.of_cons {t : Json.Tree Bytes} {ts : List (Json.Tree Bytes)} {s : String} (h : GivesText (t :: ts) s) :
    ts = [] ∧ ∃ raw, t = .text raw ∧ Decodes raw s.toList := by
  cases h with
  | given hd => exact ⟨rfl, _, rfl, hd⟩

/-- Members that give a code and a text fill the fields. A field that was read before has no more members and is
as it is left. -/
theorem fills_of_gives {seen : List String} {ms : List (List Char × Json.Tree Bytes)} {a a' : Ack}
    (hcode : codes ms = [] ∧ a'.code = a.code ∨ "Code" ∉ seen ∧ codes ms ≠ [] ∧ GivesCode (codes ms) a'.code)
    (htext : texts ms = [] ∧ a'.text = a.text ∨ "Text" ∉ seen ∧ texts ms ≠ [] ∧ GivesText (texts ms) a'.text) :
    shape.Fills seen a ms a' := by
  induction ms generalizing seen a with
  | nil =>
    obtain ⟨-, hc⟩ | ⟨-, hne, -⟩ := hcode
    · obtain ⟨-, ht⟩ | ⟨-, hne, -⟩ := htext
      · obtain rfl : a' = a := by
          cases a
          cases a'
          simp_all
        exact .nil
      · exact absurd rfl hne
    · exact absurd rfl hne
  | cons m ms ih =>
    obtain ⟨key, t⟩ := m
    cases hf : shape.field? key with
    | none =>
      obtain ⟨hc, ht⟩ := of_field?_none hf
      simp only [codes, texts, valuesOf_cons_of_not_key hc, valuesOf_cons_of_not_key ht] at hcode htext ih
      exact .unknown hf (ih hcode htext)
    | some field =>
      rcases of_field? hf with ⟨hkey, hname, hslot⟩ | ⟨hkey, hname, hslot⟩
      · have hother : key ≠ "Text".toList ∧ key ≠ "text".toList := by rcases hkey with rfl | rfl <;> decide
        simp only [codes, texts, valuesOf_cons_of_key hkey, valuesOf_cons_of_not_key hother] at hcode htext ih
        obtain ⟨hnone, -⟩ | ⟨hseen, -, hgives⟩ := hcode
        · cases hnone
        -- The field has its member now, so that those behind have none for it.
        obtain ⟨hnone, literal, rfl, hl⟩ := hgives.of_cons
        have htakes : field.slot.Takes (.number literal) a { a with code := a'.code } := by
          rw [hslot]
          exact .integer hl
        refine .known hf (hname ▸ hseen) htakes (ih (.inl ⟨hnone, rfl⟩) ?_)
        exact htext.imp id (And.imp_left (by simp [hname]))
      · have hother : key ≠ "Code".toList ∧ key ≠ "code".toList := by rcases hkey with rfl | rfl <;> decide
        simp only [codes, texts, valuesOf_cons_of_key hkey, valuesOf_cons_of_not_key hother] at hcode htext ih
        obtain ⟨hnone, -⟩ | ⟨hseen, -, hgives⟩ := htext
        · cases hnone
        obtain ⟨hnone, raw, rfl, hd⟩ := hgives.of_cons
        have htakes : field.slot.Takes (.text raw) a { a with text := a'.text } := by
          rw [hslot]
          exact .text hd
        refine .known hf (hname ▸ hseen) htakes (ih ?_ (.inl ⟨hnone, rfl⟩))
        exact hcode.imp id (And.imp_left (by simp [hname]))

/-- Elements that give a code and a text fit the fields. -/
theorem fits_of_gives {ts : List (Json.Tree Bytes)} {a : Ack} (hlen : ts.length ≤ 2)
    (hcode : GivesCode (ts.take 1) a.code) (htext : GivesText (ts.drop 1) a.text) : Fits shape.fields shape.initial ts a := by
  obtain ⟨code, text⟩ := a
  cases ts with
  | nil =>
    obtain rfl := hcode.eq_of_nil
    obtain rfl := htext.eq_of_nil
    exact .nil
  | cons t ts =>
    obtain ⟨-, literal, rfl, hl⟩ := hcode.of_cons
    cases ts with
    | nil =>
      obtain rfl := htext.eq_of_nil
      exact .next (.integer hl) .nil
    | cons u us =>
      obtain ⟨rfl, raw, rfl, hd⟩ := htext.of_cons
      exact .next (.integer hl) (.next (.text hd) .nil)

/-- A body is read as an acknowledgment exactly if it is written as that one. -/
theorem parse_eq_ok_iff {body : Bytes} {a : Ack} : parse body = .ok a ↔ Written body a := by
  refine ⟨written_of_parse, fun h => mapError_eq_ok_iff.2 (Shape.decode_eq_ok_iff.2 ?_)⟩
  cases h with
  | @object ms hms hcode htext =>
    -- A field without a member keeps its initial value, which is what no members give.
    refine .inl ⟨ms, hms, fills_of_gives ?_ ?_⟩
    · by_cases hnone : codes ms = []
      · rw [hnone] at hcode
        exact .inl ⟨hnone, hcode.eq_of_nil⟩
      · exact .inr ⟨by simp, hnone, hcode⟩
    · by_cases hnone : texts ms = []
      · rw [hnone] at htext
        exact .inl ⟨hnone, htext.eq_of_nil⟩
      · exact .inr ⟨by simp, hnone, htext⟩
  | array hts hlen hcode htext => exact .inr ⟨_, hts, fits_of_gives hlen hcode htext⟩

/-- The fate of an event whose answer is read is the one that the answer gives it. -/
theorem interpret_of_parse {body : Bytes} {a : Ack} (h : parse body = .ok a) : interpret body = a.outcome := by
  rw [interpret, h]
  rfl

/-- Every JSON text that says a code and a text is read as just these, and so is every body that is written as an
acknowledgment: the values that nobody asks for may then hold texts that are none. Code zero accepts the event, and
any other one refuses it in these words. -/
theorem parse_complete {body : Bytes} {a : Ack} (h : Says body a ∨ Written body a) :
    parse body = .ok a ∧ (a.code = 0 → interpret body = .ok ()) ∧
      (a.code ≠ 0 → interpret body = .error (.rejected a.code a.text)) := by
  have hparse : parse body = .ok a := parse_eq_ok_iff.2 (h.elim Says.written id)
  have hinterpret := interpret_of_parse hparse
  refine ⟨hparse, fun h0 => ?_, fun h0 => ?_⟩
  · rw [hinterpret, outcome, if_pos h0]
  · rw [hinterpret, outcome, if_neg h0]

/-- A refusal with code minus seven: a member that nobody asks for stands in front, the key of the code begins
with an escape, and there are blanks. -/
def refusal : Bytes :=
  [0x7B, 0x22, 0x78, 0x22, 0x3A, 0x5B, 0x6E, 0x75, 0x6C, 0x6C, 0x5D, 0x20, 0x2C, 0x22, 0x5C, 0x75, 0x30, 0x30, 0x34,
    0x33, 0x6F, 0x64, 0x65, 0x22, 0x3A, 0x20, 0x2D, 0x37, 0x7D]

theorem isText_refusal :
    IsText .standard (.object [(['x'], .list [.null]), (['C', 'o', 'd', 'e'], .number [0x2D, 0x37])]) refusal := by
  have hblank : ∀ b ∈ [0x20], isBlank b = true := List.forall_mem_singleton.2 rfl
  have hode : Decodes [0x6F, 0x64, 0x65] ['o', 'd', 'e'] :=
    .plain (c := 'o') (by decide) (by decide) (by decide) <| .plain (c := 'd') (by decide) (by decide) (by decide) <|
      .plain (c := 'e') (by decide) (by decide) (by decide) .nil
  have hkey : Decodes [0x5C, 0x75, 0x30, 0x30, 0x34, 0x33, 0x6F, 0x64, 0x65] ['C', 'o', 'd', 'e'] :=
    .unit (n := 0x43) rfl (by simp [IsHighSurrogate]) (by simp [IsLowSurrogate]) hode
  have hseven : IsNumber [0x2D, 0x37] :=
    ⟨[0x2D], [0x37], [], [], .inr rfl, isWhole_cons (by decide) (by simp) (by decide), .inl rfl, .inl rfl, rfl⟩
  have hvalue : Spells .standard (.number [0x2D, 0x37]) [0x2D, 0x37, 0x7D] [0x7D] := .number hseven
  have hlist : Spells .standard (.list [.null]) (0x5B :: 0x6E :: 0x75 :: 0x6C :: 0x6C :: 0x5D :: refusal.drop 11)
      (refusal.drop 11) := .list (.next rfl (.refl _) .null (.close (.refl _)))
  refine ⟨refusal, [], .refl _, .object ?_, .refl _⟩
  refine .next rfl (.refl _) ⟨_, decodes_x, rfl⟩ (.refl _) (.refl _) hlist ?_
  exact .next ⟨[0x20], hblank, rfl⟩ (.refl _) ⟨_, hkey, rfl⟩ (.refl _) ⟨[0x20], hblank, rfl⟩ hvalue (.close (.refl _))

theorem says_refusal : Says refusal ⟨-7, ""⟩ := by
  have hwhole : IsWhole [0x37] := isWhole_cons (by decide) (by simp) (by decide)
  have hl : IsInteger [0x2D, 0x37] (-7) := .negative hwhole (by decide)
  exact .object isText_refusal (.given hl) (.absent rfl)

/-- The refusal is read, and refuses. -/
theorem parse_complete_refusal :
    (Says refusal ⟨-7, ""⟩ ∨ Written refusal ⟨-7, ""⟩) ∧ parse refusal = .ok ⟨-7, ""⟩ ∧ (-7 : Int64) ≠ 0 ∧
      interpret refusal = .error (.rejected (-7) "") := by
  have h : Says refusal ⟨-7, ""⟩ ∨ Written refusal ⟨-7, ""⟩ := .inl says_refusal
  obtain ⟨hparse, -, hrefused⟩ := parse_complete h
  exact ⟨h, hparse, by decide, hrefused (by decide)⟩

end QueryAudit.Ack
