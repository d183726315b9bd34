import QueryAudit.Proofs.Url.Stray
import QueryAudit.Proofs.Url.Written
import QueryAudit.Request
/-!
# How a request is built

`build_classified`: an endpoint is rejected for the first thing that is wrong with it, whatever the token is; if
nothing is, the token decides. No other failure occurs. What is built has five headers, one of which holds the token,
and no header holds a line break.
-/

namespace QueryAudit.Request

open Url

/-! ## Escapes of an endpoint -/

/-- What stands before the query and before the fragment of a text. -/
def unqueried (s : List Char) : List Char := s.takeWhile fun c => c != '?' && c != '#'

/-- What stands behind the first hash of a text. -/
def fragment (s : List Char) : List Char := (s.dropWhile (· != '#')).drop 1

/-- The first stray percent sign of a text with up to two characters behind it. A query may have any. -/
inductive StraysFirst (s : List Char) : List Char → Prop
  | unqueried {before behind} : unqueried s = before ++ '%' :: behind → Escaped before → ¬BeginsWithDigits behind →
      StraysFirst s (('%' :: behind).take 3)
  | fragment {before behind} : Escaped (unqueried s) → fragment s = before ++ '%' :: behind → Escaped before →
      ¬BeginsWithDigits behind → StraysFirst s (('%' :: behind).take 3)

/-- A text without stray percent signs but in its query. -/
structure HasNoStray (s : List Char) : Prop where
  unqueried : Escaped (unqueried s)
  fragment : Escaped (fragment s)

theorem fragment_append {s : List Char} (hs : '#' ∉ s) (t : List Char) : fragment (s ++ t) = fragment t := by
  have hmark : ∀ c ∈ s, (c != '#') = true := by
    intro c hc
    rw [bne_iff_ne]
    rintro rfl
    exact hs hc
  rw [fragment, List.dropWhile_append_of_pos hmark, fragment]

/-- Neither mark is looked for in a text that has none. -/
theorem unqueried_append {s : List Char} (hs : ∀ c ∈ s, c ≠ '?' ∧ c ≠ '#') (t : List Char) :
    unqueried (s ++ t) = s ++ unqueried t ∧ fragment (s ++ t) = fragment t := by
  refine ⟨?_, fragment_append (fun hc => (hs _ hc).2 rfl) t⟩
  rw [unqueried, List.takeWhile_append_of_pos fun c hc => by simp [hs c hc], unqueried]

/-- A question mark ends what stands before the query. -/
theorem unqueried_query (s t : List Char) : unqueried (s ++ '?' :: t) = unqueried s := by
  unfold unqueried
  rw [List.takeWhile_append]
  split
  · next hall =>
    rw [List.takeWhile_cons_of_neg (by decide), List.append_nil]
    exact ((List.takeWhile_prefix _).eq_of_length hall).symm
  · rfl

/-- The two ways of cutting agree on where the path ends, and on the fragment. -/
theorem splitTail_eq (s : List Char) : (splitTail s).1 = unqueried s ∧ (splitTail s).2.2.getD [] = fragment s := by
  constructor
  · change (s.takeWhile (!· == '#')).takeWhile (!· == '?') = _
    rw [List.takeWhile_takeWhile, unqueried]
    simp only [Bool.decide_and, Bool.decide_eq_true]
    rfl
  · rw [fragment]
    change (if (s.dropWhile (· != '#')).isEmpty then none else some ((s.dropWhile (· != '#')).drop 1)).getD [] = _
    split
    · next hempty => rw [List.isEmpty_iff.1 hempty, List.drop_nil, Option.getD_none]
    · rfl

/-- A page without stray percent signs, a query of any kind, and a fragment without. -/
theorem hasNoStray_of_parts {page : List Char} (query fragment : Option (List Char)) (hpage : Unmarked page)
    (hquery : ∀ q, query = some q → '#' ∉ q) (hfragment : ∀ f, fragment = some f → Escaped f) :
    HasNoStray (page ++ query.elim [] ('?' :: ·) ++ fragment.elim [] ('#' :: ·)) := by
  have hmarks : ∀ c ∈ page, c ≠ '?' ∧ c ≠ '#' := by
    intro c hc
    constructor
    · rintro rfl
      exact hpage.question hc
    · rintro rfl
      exact hpage.hash hc
  obtain ⟨hunqueried, hbehind⟩ := splitTail_eq (page ++ query.elim [] ('?' :: ·) ++ fragment.elim [] ('#' :: ·))
  rw [splitTail_append query fragment hmarks hquery] at hunqueried hbehind
  refine ⟨hunqueried ▸ hpage.escaped, hbehind ▸ ?_⟩
  cases hf : fragment with
  | none => exact .nil
  | some f => exact hfragment f hf

theorem cutOnce_fst (mark : Char) (s : List Char) : (cutOnce mark s).1 = s.takeWhile (· != mark) := rfl

theorem invalidEscape?_eq (s : List Char) : invalidEscape? s =
    ((Percent.strayEscape? (unqueried s)).or (Percent.strayEscape? (fragment s))).map (·.take 3) := by
  have hpage : (cutOnce '?' (cutOnce '#' s).1).1 = unqueried s := by
    rw [cutOnce_fst, cutOnce_fst, List.takeWhile_takeWhile, unqueried]
    simp only [Bool.decide_and, Bool.decide_eq_true]
  have hfragment : (cutOnce '#' s).2 = fragment s := rfl
  rw [← hpage, ← hfragment, Option.or_eq_orElse]
  rfl

theorem invalidEscape?_eq_none_iff {s : List Char} : invalidEscape? s = none ↔ HasNoStray s := by
  rw [invalidEscape?_eq, Option.map_eq_none_iff, Option.or_eq_none_iff, Percent.strayEscape?_eq_none_iff,
    Percent.strayEscape?_eq_none_iff]
  exact ⟨fun h => ⟨h.1, h.2⟩, fun h => ⟨h.unqueried, h.fragment⟩⟩

theorem invalidEscape?_eq_some_iff {s e : List Char} : invalidEscape? s = some e ↔ StraysFirst s e := by
  rw [invalidEscape?_eq, Option.map_eq_some_iff]
  constructor
  · rintro ⟨t, ht, rfl⟩
    rcases Option.or_eq_some_iff.1 ht with hpage | ⟨hpage, hfragment⟩
    · obtain ⟨before, behind, hs, hbefore, hbehind, rfl⟩ := Percent.strayEscape?_eq_some_iff.1 hpage
      exact .unqueried hs hbefore hbehind
    · obtain ⟨before, behind, hs, hbefore, hbehind, rfl⟩ := Percent.strayEscape?_eq_some_iff.1 hfragment
      exact .fragment (Percent.strayEscape?_eq_none_iff.1 hpage) hs hbefore hbehind
  · intro h
    cases h with
    | unqueried hs hbefore hbehind =>
      have hpage := Percent.strayEscape?_eq_some_iff.2 ⟨_, _, hs, hbefore, hbehind, rfl⟩
      exact ⟨_, Option.or_eq_some_iff.2 (.inl hpage), rfl⟩
    | fragment hpage hs hbefore hbehind =>
      have hfragment := Percent.strayEscape?_eq_some_iff.2 ⟨_, _, hs, hbefore, hbehind, rfl⟩
      exact ⟨_, Option.or_eq_some_iff.2 (.inr ⟨Percent.strayEscape?_eq_none_iff.2 hpage, hfragment⟩), rfl⟩

/-! ## The endpoint -/

/-- The address of an endpoint, if it is one that events can be sent to. -/
structure Addresses (text : String) (url : Url.Web) : Prop where
  ne_empty : text ≠ ""
  escapes : HasNoStray text.toList
  parse : Address.parse text.toList = .ok (.web url)

/-- Why an endpoint is rejected: it is empty, has a stray percent sign, is no URL, names no host, or has no scheme or
another than those of the web. Each takes precedence over those behind it. -/
inductive Rejected (text : String) : Failure → Prop
  | empty : text = "" → Rejected text (.send .noEndpoint)
  | escape {e} : text ≠ "" → StraysFirst text.toList e →
      Rejected text (.request (.invalidEscape text (String.ofList e)))
  | malformed {fault} : text ≠ "" → HasNoStray text.toList → Address.parse text.toList = .error fault →
      fault ≠ .emptyHost → fault ≠ .noScheme → Rejected text (.request (.malformedEndpoint text fault))
  | noHost : text ≠ "" → HasNoStray text.toList → Address.parse text.toList = .error .emptyHost →
      Rejected text (.send (.noHost text))
  | noScheme : text ≠ "" → HasNoStray text.toList → Address.parse text.toList = .error .noScheme →
      Rejected text (.send (.unsupportedScheme ""))
  | foreign {scheme} : text ≠ "" → HasNoStray text.toList → Address.parse text.toList = .ok (.foreign scheme) →
      scheme ≠ Scheme.http.name → scheme ≠ Scheme.https.name →
      Rejected text (.send (.unsupportedScheme (String.ofList scheme)))

variable {text : String}

theorem endpoint_of_addresses {url : Url.Web} (h : Addresses text url) : endpoint text = .ok url := by
  rw [endpoint, if_neg h.ne_empty, invalidEscape?_eq_none_iff.2 h.escapes, h.parse]

theorem endpoint_of_rejected {f : Failure} (h : Rejected text f) : endpoint text = .error f := by
  cases h with
  | empty hempty => rw [endpoint, if_pos hempty]
  | escape hne he => rw [endpoint, if_neg hne, invalidEscape?_eq_some_iff.2 he]
  | malformed hne hnone hparse hhost hscheme =>
    rw [endpoint, if_neg hne, invalidEscape?_eq_none_iff.2 hnone, hparse]
    cases ‹Url.Fault› <;> simp_all
  | noHost hne hnone hparse => rw [endpoint, if_neg hne, invalidEscape?_eq_none_iff.2 hnone, hparse]
  | noScheme hne hnone hparse => rw [endpoint, if_neg hne, invalidEscape?_eq_none_iff.2 hnone, hparse]
  | foreign hne hnone hparse => rw [endpoint, if_neg hne, invalidEscape?_eq_none_iff.2 hnone, hparse]

/-- An endpoint has an address or is rejected. -/
theorem addresses_or_rejected (text : String) : (∃ url, Addresses text url) ∨ ∃ f, Rejected text f := by
  by_cases hne : text = ""
  · exact .inr ⟨_, .empty hne⟩
  cases he : invalidEscape? text.toList with
  | some e => exact .inr ⟨_, .escape hne (invalidEscape?_eq_some_iff.1 he)⟩
  | none =>
    have hnone := invalidEscape?_eq_none_iff.1 he
    cases hparse : Address.parse text.toList with
    | ok address =>
      cases address with
      | web url => exact .inl ⟨url, hne, hnone, hparse⟩
      | foreign scheme =>
        obtain ⟨hhttp, hhttps⟩ := ne_of_parse_foreign hparse
        exact .inr ⟨_, .foreign hne hnone hparse hhttp hhttps⟩
    | error fault =>
      by_cases hhost : fault = .emptyHost
      · exact .inr ⟨_, .noHost hne hnone (hhost ▸ hparse)⟩
      by_cases hscheme : fault = .noScheme
      · exact .inr ⟨_, .noScheme hne hnone (hscheme ▸ hparse)⟩
      exact .inr ⟨_, .malformed hne hnone hparse hhost hscheme⟩

theorem addresses_of_endpoint {url : Url.Web} (h : endpoint text = .ok url) : Addresses text url := by
  rcases addresses_or_rejected text with ⟨url', h'⟩ | ⟨f, h'⟩
  · rw [endpoint_of_addresses h'] at h
    cases h
    exact h'
  · rw [endpoint_of_rejected h'] at h
    cases h

/-! ## The token -/

/-- A character that no header can hold: a control character other than the tab. -/
def IsForbidden (c : Char) : Prop := c.toNat ≤ 0x08 ∨ 0x0A ≤ c.toNat ∧ c.toNat ≤ 0x1F ∨ c.toNat = 0x7F

theorem isHeaderChar_iff {c : Char} : isHeaderChar c = true ↔ ¬IsForbidden c := by
  have htab : c = '\t' ↔ c.toNat = 9 := ⟨by rintro rfl; rfl, fun h => Char.toNat_inj.1 h⟩
  simp only [isHeaderChar, Bool.or_eq_true, beq_iff_eq, htab, Bool.and_eq_true, decide_eq_true_eq, bne_iff_ne, ne_eq,
    IsForbidden]
  omega

theorem all_isHeaderChar_iff (token : String) :
    ("Splunk " ++ token).toList.all isHeaderChar = true ↔ ∀ c ∈ token.toList, ¬IsForbidden c := by
  have hword : "Splunk ".toList.all isHeaderChar = true := rfl
  simp only [String.toList_append, List.all_append, hword, Bool.true_and, List.all_eq_true, isHeaderChar_iff]

/-- The header of a token that a header can hold. -/
theorem authorization_eq_ok_iff {token value : String} :
    authorization token = .ok value ↔ (∀ c ∈ token.toList, ¬IsForbidden c) ∧ value = "Splunk " ++ token := by
  unfold authorization
  dsimp only
  rw [← all_isHeaderChar_iff]
  by_cases h : ("Splunk " ++ token).toList.all isHeaderChar = true
  · rw [if_pos h, Except.ok.injEq]
    exact ⟨fun hv => ⟨h, hv.symm⟩, fun hv => hv.2.symm⟩
  · rw [if_neg h]
    exact ⟨nofun, fun hv => absurd hv.1 h⟩

theorem authorization_of_isForbidden {token : String} (h : ∃ c ∈ token.toList, IsForbidden c) :
    authorization token = .error (.request .invalidHeader) := by
  obtain ⟨c, hc, hforbidden⟩ := h
  exact if_neg fun hall => (all_isHeaderChar_iff token).1 hall c hc hforbidden

/-- An octet that a header can hold: no control character of ASCII other than the tab. -/
def IsLegal (b : UInt8) : Prop := b.toNat = 0x09 ∨ 0x20 ≤ b.toNat ∧ b.toNat ≠ 0x7F

/-- It makes no difference whether characters are looked at or their octets. -/
theorem forall_isLegal_iff {value : String} :
    (∀ b ∈ octets value, IsLegal b) ↔ ∀ c ∈ value.toList, ¬IsForbidden c := by
  have hchar (c : Char) : (∀ b ∈ Utf8.encodeChar c, IsLegal b) ↔ ¬IsForbidden c := by
    by_cases hascii : c.toNat < 0x80
    · rw [Utf8.encodeChar_ascii hascii, List.forall_mem_singleton, IsLegal, Utf8.toNat_ofNat (by omega), IsForbidden]
      omega
    · refine iff_of_true (fun b hb => ?_) (by unfold IsForbidden; omega)
      have hle := Utf8.le_of_mem_encodeChar (by omega) hb
      exact .inr (by omega)
  simp only [octets, Utf8.encode, List.mem_flatMap, ← hchar]
  constructor
  · intro h c hc b hb
    exact h b ⟨c, hc, hb⟩
  · rintro h b ⟨c, hc, hb⟩
    exact h c hc b hb

/-! ## The request -/

theorem draft_of_hasHost {url : Url.Web} (h : url.hasHost = true) : ∃ headers, draft url =
    .ok ⟨url.withoutCredentials, headers, []⟩ ∧ ∀ header ∈ headers, header.1 = "authorization" := by
  refine ⟨_, if_pos h, fun header hheader => ?_⟩
  obtain ⟨login, -, rfl⟩ := List.mem_map.1 hheader
  rfl

/-- A header for user name and password gives way to the one for the token. -/
theorem replaceHeaders_headersWith {old : List (String × String)} (h : ∀ header ∈ old, header.1 = "authorization")
    (value : String) : replaceHeaders old (headersWith value) = headersWith value := by
  have hnone : old.filter (fun header => !(headersWith value).any (·.1 == header.1)) = [] := by
    refine List.filter_eq_nil_iff.2 fun header hheader => ?_
    rw [h header hheader]
    simp [headersWith]
  rw [replaceHeaders, hnone, List.nil_append]

/-- A request can be built exactly if its endpoint is an address and its token fits a header. -/
theorem build_eq (r : Record) (d : Deployment) :
    build r d = (endpoint d.endpoint).bind fun url => (authorization d.token).map fun value =>
      ⟨url.withoutCredentials, headersWith value, (Envelope.ofRecord r d).body⟩ := by
  unfold build
  cases hurl : endpoint d.endpoint with
  | error e => rfl
  | ok url =>
    cases authorization d.token with
    | error e => rfl
    | ok value =>
      obtain ⟨headers, hdraft, hnames⟩ := draft_of_hasHost (hasHost_of_parse (addresses_of_endpoint hurl).parse)
      simp only [bind, Except.bind, hdraft, replaceHeaders_headersWith hnames]
      rfl

variable {r : Record} {d : Deployment}

theorem build_eq_ok_iff {q : Request} : build r d = .ok q ↔ ∃ url, Addresses d.endpoint url ∧
    (∀ c ∈ d.token.toList, ¬IsForbidden c) ∧
    q = ⟨url.withoutCredentials, headersWith ("Splunk " ++ d.token), (Envelope.ofRecord r d).body⟩ := by
  rw [build_eq, bind_eq_ok_iff]
  constructor
  · rintro ⟨url, hurl, h⟩
    obtain ⟨value, hvalue, rfl⟩ := map_eq_ok_iff.1 h
    obtain ⟨htoken, rfl⟩ := authorization_eq_ok_iff.1 hvalue
    exact ⟨url, addresses_of_endpoint hurl, htoken, rfl⟩
  · rintro ⟨url, hurl, htoken, rfl⟩
    exact ⟨url, endpoint_of_addresses hurl, by rw [authorization_eq_ok_iff.2 ⟨htoken, rfl⟩]; rfl⟩

theorem build_of_rejected {f : Failure} (h : Rejected d.endpoint f) : build r d = .error f := by
  rw [build_eq, endpoint_of_rejected h]
  rfl

theorem build_of_isForbidden {url : Url.Web} (hurl : Addresses d.endpoint url)
    (htoken : ∃ c ∈ d.token.toList, IsForbidden c) : build r d = .error (.request .invalidHeader) := by
  rw [build_eq, endpoint_of_addresses hurl, authorization_of_isForbidden htoken]
  rfl

/-- A request that cannot be built has a bad endpoint, or else a bad token. -/
theorem of_not_build {f : Failure} (h : build r d = .error f) :
    Rejected d.endpoint f ∨ (∃ c ∈ d.token.toList, IsForbidden c) ∧ f = .request .invalidHeader := by
  rcases addresses_or_rejected d.endpoint with ⟨url, hurl⟩ | ⟨f', hf'⟩
  · by_cases htoken : ∃ c ∈ d.token.toList, IsForbidden c
    · rw [build_of_isForbidden hurl htoken] at h
      exact .inr ⟨htoken, (Except.error.inj h).symm⟩
    · rw [build_eq_ok_iff.2 ⟨url, hurl, fun c hc hforbidden => htoken ⟨c, hc, hforbidden⟩, rfl⟩] at h
      cases h
  · rw [build_of_rejected hf'] at h
    exact .inl (Except.error.inj h ▸ hf')

theorem addresses_iff (text : String) : (∃ url, Addresses text url) ↔ ∀ f, ¬Rejected text f := by
  constructor
  · rintro ⟨url, hurl⟩ f hf
    have h := endpoint_of_addresses hurl
    rw [endpoint_of_rejected hf] at h
    cases h
  · intro h
    exact (addresses_or_rejected text).resolve_right fun ⟨f, hf⟩ => h f hf

/-! ## Headers -/

/-- The headers that carry a token: five of them, and it is in one. -/
structure Carry (token : String) (headers : List (String × String)) : Prop where
  eq : headers = [("accept", "application/json"), ("accept-encoding", "gzip"), ("authorization", "Splunk " ++ token),
    ("content-type", "application/json; charset=utf-8"), ("user-agent", Product.userAgent)]
  credential : (headers.lookup "authorization").map octets = some (octets "Splunk " ++ octets token)
  /-- No header starts another one. -/
  unbroken : ∀ header ∈ headers, ∀ b ∈ octets header.2, b ≠ 0x0D ∧ b ≠ 0x0A ∧ b ≠ 0x00

theorem carry_headersWith {token : String} (h : ∀ c ∈ token.toList, ¬IsForbidden c) :
    Carry token (headersWith ("Splunk " ++ token)) where
  eq := rfl
  credential := by
    change some (octets ("Splunk " ++ token)) = _
    rw [octets, String.toList_append, Utf8.encode_append, octets, octets]
  unbroken header hheader b hb := by
    have hfixed : ∀ value ∈ ["application/json", "gzip", "application/json; charset=utf-8", Product.userAgent],
        ∀ c ∈ value.toList, ¬IsForbidden c := by
      simp only [← isHeaderChar_iff, ← List.all_eq_true]
      decide
    have hvalue : ∀ c ∈ header.2.toList, ¬IsForbidden c := by
      simp only [headersWith, List.mem_cons, List.not_mem_nil, or_false] at hheader
      rcases hheader with rfl | rfl | rfl | rfl | rfl
      · exact hfixed _ (by decide)
      · exact hfixed _ (by decide)
      · simp only [← isHeaderChar_iff, ← List.all_eq_true]
        exact (all_isHeaderChar_iff token).2 h
      · exact hfixed _ (by decide)
      · exact hfixed _ (by decide)
    have hlegal := forall_isLegal_iff.2 hvalue b hb
    refine ⟨?_, ?_, ?_⟩
    all_goals
      rintro rfl
      revert hlegal
      unfold IsLegal
      decide

theorem Carry.eq_of_credential {token token' : String} {headers headers' : List (String × String)}
    (h : Carry token headers) (h' : Carry token' headers')
    (heq : headers.lookup "authorization" = headers'.lookup "authorization") : token = token' := by
  have hvalue : some ("Splunk " ++ token) = some ("Splunk " ++ token') := by
    rw [h.eq, h'.eq] at heq
    exact heq
  have hlist : "Splunk ".toList ++ token.toList = "Splunk ".toList ++ token'.toList := by
    rw [← String.toList_append, ← String.toList_append, Option.some.inj hvalue]
  exact String.toList_injective (List.append_cancel_left hlist)

/-- How a request is built. A rejected endpoint fails in its way whatever the token is. With any other endpoint there
is a request exactly if the token has no control character but tabs, and else a failure that is about the header; an
address is never one that no request can be drafted to. What is built carries the token, which is all that its headers
depend on. -/
theorem build_classified (r : Record) (d : Deployment) :
    (∀ f, Rejected d.endpoint f → ∀ token, build r { d with token } = .error f) ∧
    ((∃ q, build r d = .ok q) ↔ (∀ f, ¬Rejected d.endpoint f) ∧ ∀ c ∈ d.token.toList, ¬IsForbidden c) ∧
    ((∀ f, ¬Rejected d.endpoint f) → (∃ c ∈ d.token.toList, IsForbidden c) →
      build r d = .error (.request .invalidHeader)) ∧
    (∀ url, build r d ≠ .error (.request (.unbuildable url))) ∧
    ∀ q, build r d = .ok q → Carry d.token q.headers ∧ ∀ r' d' q', build r' d' = .ok q' →
      q.headers.lookup "authorization" = q'.headers.lookup "authorization" → d.token = d'.token := by
  have hcarry {r : Record} {d : Deployment} {q : Request} (h : build r d = .ok q) : Carry d.token q.headers := by
    obtain ⟨url, -, htoken, rfl⟩ := build_eq_ok_iff.1 h
    exact carry_headersWith htoken
  refine ⟨fun f hf token => build_of_rejected (d := { d with token }) hf, ?_, fun hnot htoken => ?_, fun url h => ?_,
    fun q h => ⟨hcarry h, fun r' d' q' h' => (hcarry h).eq_of_credential (hcarry h')⟩⟩
  · rw [← addresses_iff]
    constructor
    · rintro ⟨q, h⟩
      obtain ⟨url, hurl, htoken, -⟩ := build_eq_ok_iff.1 h
      exact ⟨⟨url, hurl⟩, htoken⟩
    · rintro ⟨⟨url, hurl⟩, htoken⟩
      exact ⟨_, build_eq_ok_iff.2 ⟨url, hurl, htoken, rfl⟩⟩
  · obtain ⟨url, hurl⟩ := (addresses_iff d.endpoint).2 hnot
    exact build_of_isForbidden hurl htoken
  · rcases of_not_build h with hf | ⟨-, hf⟩
    · cases hf
    · cases hf

end QueryAudit.Request
