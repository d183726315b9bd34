import QueryAudit.Ack
import QueryAudit.Proofs.Json.Shape
import QueryAudit.Proofs.Json.Unambiguous
/-!
# What an acknowledgment is read from

`parse_sound`: a body that is read as an acknowledgment is an object or an array that says so. Its code
is an integer literal of exactly that value, or is left out and zero, and only a zero or no code at all
accepts an event. `parse_illFormed`: values that nobody asks for are held to their form alone.
-/

namespace QueryAudit.Ack

open Json

/-! ## What a body says -/

/-- The values of the members whose key is one of two. -/
def valuesOf (upper lower : String) (members : List (List Char × Json.Tree Bytes)) : List (Json.Tree Bytes) :=
  (members.filter fun m => m.1 == upper.toList || m.1 == lower.toList).map (·.2)

/-- The values of the members that give the code. -/
def codes (members : List (List Char × Json.Tree Bytes)) : List (Json.Tree Bytes) := valuesOf "Code" "code" members

/-- The values of the members that give the text. -/
def texts (members : List (List Char × Json.Tree Bytes)) : List (Json.Tree Bytes) := valuesOf "Text" "text" members

/-- The code that values give: none is zero, and more than one give none. -/
inductive GivesCode : List (Json.Tree Bytes) → Int64 → Prop
  | absent : GivesCode [] 0
  | given {literal code} : IsInteger literal code.toInt → GivesCode [.number literal] code

/-- The text that values give: none is empty, and more than one give none. -/
inductive GivesText : List (Json.Tree Bytes) → String → Prop
  | absent : GivesText [] ""
  | given {raw text} : Decodes raw text.toList → GivesText [.text raw] text

/-- The body is written as an acknowledgment, either way. -/
inductive Written (body : Bytes) (a : Ack) : Prop
  | object {ms} : IsObject ms body → GivesCode (codes ms) a.code → GivesText (texts ms) a.text → Written body a
  | array {ts} : IsArray ts body → ts.length ≤ 2 → GivesCode (ts.take 1) a.code → GivesText (ts.drop 1) a.text →
      Written body a

/-- The body leaves the code out, or it is zero in so many digits. -/
inductive Accepts (body : Bytes) : Prop
  | object {ms} : IsObject ms body → codes ms = [] ∨ codes ms = [.number [0x30]] → Accepts body
  | array {ts} : IsArray ts body → ts.length ≤ 2 → ts.take 1 = [] ∨ ts.take 1 = [.number [0x30]] → Accepts body

theorem GivesCode.unique {ts : List (Json.Tree Bytes)} {c c' : Int64} (h : GivesCode ts c) (h' : GivesCode ts c') :
    c = c' := by
  cases h with
  | absent =>
    cases h'
    rfl
  | given h =>
    cases h' with
    | given h' => exact Int64.toInt_inj.1 (h.unique h')

theorem GivesText.unique {ts : List (Json.Tree Bytes)} {s s' : String} (h : GivesText ts s) (h' : GivesText ts s') :
    s = s' := by
  cases h with
  | absent =>
    cases h'
    rfl
  | given h =>
    cases h' with
    | given h' => exact String.toList_inj.1 (Quoted.unique ⟨_, h, rfl⟩ ⟨_, h', rfl⟩ : _ ∧ ([] : Bytes) = []).1

/-- A body is one acknowledgment at most. -/
theorem Written.unique {body : Bytes} {a a' : Ack} (h : Written body a) (h' : Written body a') : a = a' := by
  have ext {a a' : Ack} (hc : a.code = a'.code) (ht : a.text = a'.text) : a = a' := by
    cases a
    cases a'
    simp_all
  cases h with
  | object h hc ht =>
    cases h' with
    | object h' hc' ht' =>
      obtain rfl := h.unique h'
      exact ext (hc.unique hc') (ht.unique ht')
    | array h' => exact (h.not_isArray h').elim
  | array h _ hc ht =>
    cases h' with
    | object h' => exact (h'.not_isArray h).elim
    | array h' _ hc' ht' =>
      obtain rfl := h.unique h'
      exact ext (hc.unique hc') (ht.unique ht')

/-- Only a zero or no code gives the code zero. -/
theorem GivesCode.eq_zero {ts : List (Json.Tree Bytes)} (h : GivesCode ts 0) : ts = [] ∨ ts = [.number [0x30]] := by
  cases h with
  | absent => exact .inl rfl
  | given h => exact .inr (by rw [h.eq_zero])

/-! ## The two fields -/

/-- The fields of an answer by their keys. -/
theorem of_field? {key : List Char} {f : Json.Field Ack} (h : shape.field? key = some f) :
    (key = "Code".toList ∨ key = "code".toList) ∧ f.name = "Code" ∧
        f.slot = .integer (fun n a => { a with code := n }) ∨
      (key = "Text".toList ∨ key = "text".toList) ∧ f.name = "Text" ∧
        f.slot = .text (fun s a => { a with text := s }) := by
  have hlist (s : String) : String.ofList key = s → key = s.toList := by
    rintro rfl
    rw [String.toList_ofList]
  have hmem := List.mem_of_find?_eq_some h
  have hkey := List.find?_some h
  simp only [shape, List.mem_cons, List.not_mem_nil, or_false] at hmem
  rcases hmem with rfl | rfl
  · simp only [List.contains_cons, List.contains_nil, Bool.or_false, Bool.or_eq_true, beq_iff_eq] at hkey
    exact .inl ⟨hkey.imp (hlist _) (hlist _), rfl, rfl⟩
  · simp only [List.contains_cons, List.contains_nil, Bool.or_false, Bool.or_eq_true, beq_iff_eq] at hkey
    exact .inr ⟨hkey.imp (hlist _) (hlist _), rfl, rfl⟩

theorem of_field?_none {key : List Char} (h : shape.field? key = none) :
    (key ≠ "Code".toList ∧ key ≠ "code".toList) ∧ key ≠ "Text".toList ∧ key ≠ "text".toList := by
  have hlist (s : String) (hs : String.ofList key ≠ s) : key ≠ s.toList := by
    rintro rfl
    exact hs (String.ofList_toList)
  simp only [Shape.field?, shape, List.find?_eq_none, List.mem_cons, List.not_mem_nil, or_false, forall_eq_or_imp,
    forall_eq, List.contains_cons, List.contains_nil, Bool.or_false, Bool.or_eq_true, beq_iff_eq, not_or] at h
  exact ⟨⟨hlist _ h.1.1, hlist _ h.1.2⟩, hlist _ h.2.1, hlist _ h.2.2⟩

theorem valuesOf_cons_of_key {upper lower : String} {key : List Char} (h : key = upper.toList ∨ key = lower.toList)
    (t : Json.Tree Bytes) (ms : List (List Char × Json.Tree Bytes)) :
    valuesOf upper lower ((key, t) :: ms) = t :: valuesOf upper lower ms := by
  have hk : (key == upper.toList || key == lower.toList) = true := by simpa using h
  simp [valuesOf, hk]

theorem valuesOf_cons_of_not_key {upper lower : String} {key : List Char}
    (h : key ≠ upper.toList ∧ key ≠ lower.toList) (t : Json.Tree Bytes) (ms : List (List Char × Json.Tree Bytes)) :
    valuesOf upper lower ((key, t) :: ms) = valuesOf upper lower ms := by
  have hk : (key == upper.toList || key == lower.toList) = false := by simpa using h
  simp [valuesOf, hk]

/-- What the members leave in the two fields: a field that was read before has no more members and keeps its
value, and so does a field that has none. -/
theorem of_fills {seen : List String} {a a' : Ack} {ms : List (List Char × Json.Tree Bytes)}
    (h : shape.Fills seen a ms a') :
    (codes ms = [] ∧ a'.code = a.code ∨ "Code" ∉ seen ∧ GivesCode (codes ms) a'.code) ∧
      (texts ms = [] ∧ a'.text = a.text ∨ "Text" ∉ seen ∧ GivesText (texts ms) a'.text) := by
  induction h with
  | nil => exact ⟨.inl ⟨rfl, rfl⟩, .inl ⟨rfl, rfl⟩⟩
  | @known field seen key t ms a a₁ a' hf hseen htakes _ ih =>
    obtain ⟨hcode, htext⟩ := ih
    rcases of_field? hf with ⟨hkey, hname, hslot⟩ | ⟨hkey, hname, hslot⟩
    · have hother : key ≠ "Text".toList ∧ key ≠ "text".toList := by rcases hkey with rfl | rfl <;> decide
      rw [hname] at hseen hcode htext
      rw [hslot] at htakes
      cases htakes with
      | integer hl =>
        simp only [codes, texts, valuesOf_cons_of_key hkey, valuesOf_cons_of_not_key hother] at hcode htext ⊢
        -- The field has been read now, so that the members behind have none for it.
        rcases hcode with ⟨hnone, hc⟩ | ⟨hagain, -⟩
        · exact ⟨.inr ⟨hseen, by rw [hnone, hc]; exact .given hl⟩, htext.imp id (And.imp_left (by simp))⟩
        · exact absurd List.mem_cons_self hagain
    · have hother : key ≠ "Code".toList ∧ key ≠ "code".toList := by rcases hkey with rfl | rfl <;> decide
      rw [hname] at hseen hcode htext
      rw [hslot] at htakes
      cases htakes with
      | text hd =>
        simp only [codes, texts, valuesOf_cons_of_key hkey, valuesOf_cons_of_not_key hother] at hcode htext ⊢
        rcases htext with ⟨hnone, ht⟩ | ⟨hagain, -⟩
        · exact ⟨hcode.imp id (And.imp_left (by simp)), .inr ⟨hseen, by rw [hnone, ht]; exact .given hd⟩⟩
        · exact absurd List.mem_cons_self hagain
  | unknown hf _ ih =>
    obtain ⟨hcode, htext⟩ := of_field?_none hf
    simpa only [codes, texts, valuesOf_cons_of_not_key hcode, valuesOf_cons_of_not_key htext] using ih

/-- What the elements leave in the two fields. -/
theorem of_fits {a : Ack} {ts : List (Json.Tree Bytes)} (h : Fits shape.fields shape.initial ts a) :
    ts.length ≤ 2 ∧ GivesCode (ts.take 1) a.code ∧ GivesText (ts.drop 1) a.text := by
  cases h with
  | nil => exact ⟨by simp, .absent, .absent⟩
  | next hcode h =>
    cases hcode with
    | integer hl =>
      cases h with
      | nil => exact ⟨by simp, .given hl, .absent⟩
      | next htext h =>
        cases htext with
        | text hd =>
          cases h with
          | nil => exact ⟨by simp, .given hl, .given hd⟩

/-! ## Soundness -/

theorem written_of_parse {body : Bytes} {a : Ack} (h : parse body = .ok a) : Written body a := by
  rcases Shape.of_decode (mapError_eq_ok_iff.1 h) with ⟨ms, hms, hfills⟩ | ⟨ts, hts, hfits⟩
  · obtain ⟨hcode, htext⟩ := of_fills hfills
    refine .object hms ?_ ?_
    · rcases hcode with ⟨hnone, hc⟩ | ⟨-, hcode⟩
      · rw [hnone, hc]
        exact .absent
      · exact hcode
    · rcases htext with ⟨hnone, ht⟩ | ⟨-, htext⟩
      · rw [hnone, ht]
        exact .absent
      · exact htext
  · obtain ⟨hlen, hcode, htext⟩ := of_fits hfits
    exact .array hts hlen hcode htext

/-- A body that is no acknowledgment has one kind of failure. -/
theorem unreadable_of_parse {body : Bytes} {e : Failure} (h : parse body = .error e) :
    ∃ fault, e = .unreadableAck fault := by
  obtain ⟨fault, -, rfl⟩ := mapError_eq_error_iff.1 h
  exact ⟨fault, rfl⟩

/-- An event is accepted by an acknowledgment of code zero only. -/
theorem interpret_eq_ok_iff {body : Bytes} : interpret body = .ok () ↔ ∃ a, parse body = .ok a ∧ a.code = 0 := by
  refine bind_eq_ok_iff.trans (exists_congr fun a => and_congr_right fun _ => ?_)
  unfold outcome
  split
  · next h0 => exact ⟨fun _ => h0, fun _ => rfl⟩
  · next h0 => exact ⟨nofun, fun h => absurd h h0⟩

theorem Written.accepts {body : Bytes} {a : Ack} (h : Written body a) (h0 : a.code = 0) : Accepts body := by
  cases h with
  | object h hc _ => exact .object h (h0 ▸ hc).eq_zero
  | array h hlen hc _ => exact .array h hlen (h0 ▸ hc).eq_zero

/-- Whatever is read as an acknowledgment is written as that one, and whatever accepts an event has a zero for
its code or none. -/
theorem parse_sound (body : Bytes) :
    (∀ a, parse body = .ok a → Written body a) ∧ (interpret body = .ok () → Accepts body) := by
  refine ⟨fun a h => written_of_parse h, fun h => ?_⟩
  obtain ⟨a, ha, h0⟩ := interpret_eq_ok_iff.1 h
  exact (written_of_parse ha).accepts h0

/-- An object with a member that nobody asks for, a key in lower case and a text with an escape. -/
def remarked : Bytes := 0x7B :: octets "\"note\":null,\"code\":0,\"Text\":\"a\\u0062\"\x7d"

theorem parse_remarked : parse remarked = .ok ⟨0, "ab"⟩ := by
  let members := octets "\"note\":null,\"code\":0,\"Text\":\"a\\u0062\"\x7d"
  let asNull := octets "null,\"code\":0,\"Text\":\"a\\u0062\"\x7d"
  let behindNull := octets ",\"code\":0,\"Text\":\"a\\u0062\"\x7d"
  let behindZero := octets ",\"Text\":\"a\\u0062\"\x7d"
  have hnote : ∃ x, nextKey true members = .ok x ∧ x.1 = some "note".toList ∧ skipColon x.2 = .ok asNull := by
    decide +kernel
  have hskip : skipValue asNull = .ok behindNull := by
    have hfront : dropBlanks asNull = 0x6E :: asNull.tail := by decide +kernel
    have hscalar : skipScalar 0x6E asNull.tail = .ok behindNull := by decide +kernel
    rw [skipValue, skipDue_scalar hfront (by decide) (by decide) hscalar, skipEnded]
  have hcode : ∃ x, nextKey false behindNull = .ok x ∧ x.1 = some "code".toList ∧
      ∃ n, skipColon x.2 = .ok n ∧ shape.fields[0].slot.read {} n = .ok ({}, behindZero) := by decide +kernel
  have htext : ∃ x, nextKey false behindZero = .ok x ∧ x.1 = some "Text".toList ∧
      ∃ n, skipColon x.2 = .ok n ∧ shape.fields[1].slot.read {} n = .ok (⟨0, "ab"⟩, [0x7D]) := by decide +kernel
  obtain ⟨⟨_, m⟩, hnote, rfl, hcolon⟩ := hnote
  obtain ⟨⟨_, m'⟩, hcode, rfl, n', hcolon', hzero⟩ := hcode
  obtain ⟨⟨_, m''⟩, htext, rfl, n'', hcolon'', hab⟩ := htext
  have hmembers : shape.readMembers true [] {} members = .ok (⟨0, "ab"⟩, []) := by
    rw [Shape.readMembers_unknown hnote rfl hcolon hskip, Shape.readMembers_known hcode rfl (by decide) hcolon' hzero,
      Shape.readMembers_known htext rfl (by decide) hcolon'' hab, Shape.readMembers_eq]
    rfl
  have hread : shape.read remarked = .ok (⟨0, "ab"⟩, []) := hmembers
  exact mapError_eq_ok_iff.2 (by simp [Shape.decode, Shape.readAll, hread, dropBlanks])

/-- Both parts at that object. -/
theorem parse_sound_remarked : Written remarked ⟨0, "ab"⟩ ∧ Accepts remarked := by
  have hinterpret : interpret remarked = .ok () := interpret_eq_ok_iff.2 ⟨_, parse_remarked, rfl⟩
  exact ⟨(parse_sound remarked).1 _ parse_remarked, (parse_sound remarked).2 hinterpret⟩

/-! ## What nobody asks for -/

/-- An object of one member that nobody asks for, whose text is an octet that no UTF-8 has. -/
def illFormed : Bytes := [0x7B, 0x22, 0x78, 0x22, 0x3A, 0x22, 0xFF, 0x22, 0x7D]

theorem decodes_x : Decodes [0x78] ['x'] := .plain (c := 'x') (by decide) (by decide) (by decide) .nil

theorem readText_illFormed : readText [0xFF, 0x22, 0x7D] = .error (.here .invalidCodePoint [0x22, 0x7D]) := by
  have hmark : readText [0x22, 0x7D] = .ok ([], [0x7D]) := Decodes.nil.readText [0x7D]
  rw [readText, if_neg (by decide), if_neg (by decide), if_neg (by decide)]
  simp [Utf8.next?, hmark]

theorem readAll_illFormed : shape.readAll illFormed = .ok {} := by
  have hraw : IsRaw [0xFF] := .plain (by decide) (by decide) (by decide) .nil
  have hscalar : skipScalar 0x22 [0xFF, 0x22, 0x7D] = .ok [0x7D] := hraw.skipText [0x7D]
  have hskip : skipValue [0x22, 0xFF, 0x22, 0x7D] = .ok [0x7D] := by
    rw [skipValue, skipDue_scalar rfl (by decide) (by decide) hscalar]
    simp [skipEnded]
  have hkey : nextKey true [0x22, 0x78, 0x22, 0x3A, 0x22, 0xFF, 0x22, 0x7D] =
      .ok (some ['x'], [0x3A, 0x22, 0xFF, 0x22, 0x7D]) :=
    congrArg (Except.map _) (decodes_x.readText [0x3A, 0x22, 0xFF, 0x22, 0x7D])
  have hread : shape.read illFormed = .ok ({}, []) := by
    have hmembers : shape.readMembers true [] {} [0x22, 0x78, 0x22, 0x3A, 0x22, 0xFF, 0x22, 0x7D] = .ok ({}, []) := by
      rw [Shape.readMembers_unknown hkey rfl rfl hskip, Shape.readMembers]
      rfl
    exact hmembers
  simp [Shape.readAll, hread, dropBlanks]

theorem not_isText_illFormed (t : Json.Tree (List Char)) : ¬IsText .standard t illFormed := by
  rintro ⟨bs, rest, hbs, ht, -⟩
  obtain rfl : illFormed = bs := Front.unique (.refl _) hbs ⟨0x7B, _, _, rfl, rfl⟩ (ht.front sharp_quoted)
  obtain ⟨ms, -, hms⟩ := ht.of_brace sharp_quoted
  cases hms with
  | close h => exact absurd (Blanks.unique h (.refl _) rfl rfl).1 (by decide)
  | next hc hcl hkey hmn hnv ht _ =>
    obtain rfl := hc
    obtain ⟨tail, rfl⟩ := sharp_quoted.mark hkey
    obtain ⟨-, rfl⟩ := Blanks.unique hcl (.refl _) rfl rfl
    -- The key is the one letter, so that the value starts behind the colon; but no text starts there.
    obtain ⟨-, rfl⟩ := Quoted.unique hkey ⟨_, decodes_x, rfl⟩
    obtain ⟨-, rfl⟩ := Blanks.unique hmn (.refl _) rfl rfl
    obtain rfl := Front.unique hnv (.refl _) (ht.front sharp_quoted) ⟨0x22, _, _, rfl, rfl⟩
    obtain ⟨s, -, raw, hd, he⟩ := ht.of_quote sharp_quoted
    have hr := readText_eq_ok_iff.2 ⟨raw, hd, (List.cons.inj he).2⟩
    rw [readText_illFormed] at hr
    cases hr

/-- The octets of a value that nobody asks for are not looked at: an acknowledgment need not be JSON. -/
theorem parse_illFormed : parse illFormed = .ok {} ∧ ¬∃ t, IsText .standard t illFormed := by
  constructor
  · rw [parse, Shape.decode, readAll_illFormed]
    rfl
  · rintro ⟨t, ht⟩
    exact not_isText_illFormed t ht

end QueryAudit.Ack
