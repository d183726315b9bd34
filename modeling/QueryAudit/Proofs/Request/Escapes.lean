import QueryAudit.Proofs.Request
import QueryAudit.Proofs.Url.Tidy
import QueryAudit.Proofs.Url.Written
/-!
# Escapes in the address of a request

`address_escaped`: escapes are looked at in the text of an endpoint, before it is tidied, cut, resolved and encoded;
and yet no percent sign of the address that is asked for is stray, unless it stands in the query.
-/

namespace QueryAudit

namespace Url

/-- A web address with nothing stray in any part but the query, and no part with a mark that belongs to another. -/
structure Web.IsEscaped (u : Web) : Prop where
  user : Unmarked u.user
  password : Unmarked u.password
  host : Unmarked u.host.render
  path : ∀ segment ∈ u.path, Unmarked segment
  query : ∀ q, u.query = some q → '#' ∉ q
  fragment : ∀ f, u.fragment = some f → Escaped f

namespace Web.IsEscaped

variable {u : Web}

theorem withoutCredentials (h : u.IsEscaped) : u.withoutCredentials.IsEscaped := by
  rcases u.withoutCredentials_cases with hsame | hbare
  · rw [hsame]
    exact h
  · rw [hbare]
    exact ⟨.nil, .nil, h.host, h.path, h.query, h.fragment⟩

theorem credentials (h : u.IsEscaped) : Unmarked u.credentials := by
  have hpassword : Unmarked (if u.password.isEmpty then [] else ':' :: u.password) := by
    split
    · exact .nil
    · exact .cons (by decide) h.password
  unfold Web.credentials
  split
  · exact .nil
  · exact (h.user.append hpassword).append (.of_forall (by simp))

/-- What is written before the query. -/
theorem render (h : u.IsEscaped) : ∃ page, Unmarked page ∧
    u.render = page ++ u.query.elim [] ('?' :: ·) ++ u.fragment.elim [] ('#' :: ·) := by
  have hscheme : Unmarked (u.scheme.name ++ [':', '/', '/']) := by
    cases u.scheme <;> exact .of_forall (by simp [Scheme.name])
  exact ⟨_, ((hscheme.append h.credentials).append (unmarked_authority h.host)).append (Path.unmarked_render h.path), rfl⟩

end Web.IsEscaped

/-- A percent sign of a text in three parts is in the first, in the query or in the fragment. -/
theorem beginsWithDigits_of_parts {page before behind : List Char} {query fragment : Option (List Char)}
    (hpage : Unmarked page) (hquery : ∀ q, query = some q → '#' ∉ q) (hfragment : ∀ f, fragment = some f → Escaped f)
    (h : page ++ query.elim [] ('?' :: ·) ++ fragment.elim [] ('#' :: ·) = before ++ '%' :: behind)
    (hout : ¬('?' ∈ before ∧ '#' ∉ before)) : BeginsWithDigits behind := by
  have happend {s t : List Char} (hs : BeginsWithDigits s) : BeginsWithDigits (s ++ t) := by
    obtain ⟨a, b, rest, rfl, ha, hb⟩ := hs
    exact ⟨a, b, rest ++ t, rfl, ha, hb⟩
  rcases List.append_eq_append_iff.1 h with ⟨s, rfl, hs⟩ | ⟨s, hs, hbehind⟩
  · cases fragment with
    | none => simp at hs
    | some f =>
      rcases List.cons_eq_append_iff.1 hs with ⟨-, hs⟩ | ⟨t, -, ht⟩
      · cases hs
      · exact escaped_iff_forall.1 (hfragment f rfl) t behind ht
  rcases List.cons_eq_append_iff.1 hbehind with ⟨-, hs⟩ | ⟨t, rfl, rfl⟩
  · cases fragment <;> cases hs
  rcases List.append_eq_append_iff.1 hs with ⟨s, rfl, hmark⟩ | ⟨s, hpre, hmark⟩
  · cases query with
    | none => simp at hmark
    | some q =>
      rcases List.cons_eq_append_iff.1 hmark with ⟨-, hmark⟩ | ⟨z, rfl, rfl⟩
      · cases hmark
      -- A percent sign of the query has its question mark before it, and no hash.
      have hhash : '#' ∉ page ++ '?' :: z := by
        intro hmem
        rcases List.mem_append.1 hmem with hmem | hmem
        · exact hpage.hash hmem
        rcases List.mem_cons.1 hmem with hmem | hmem
        · cases hmem
        · exact hquery _ rfl (List.mem_append_left _ hmem)
      exact absurd ⟨List.mem_append_right _ List.mem_cons_self, hhash⟩ hout
  · rcases List.cons_eq_append_iff.1 hmark with ⟨-, hmark⟩ | ⟨z, rfl, rfl⟩
    · cases query <;> cases hmark
    · exact happend (happend (escaped_iff_forall.1 hpage.escaped before z hpre))

/-! ## From the text of an endpoint -/

/-- A user name and a password are escaped. -/
theorem splitUser_unmarked {s : List Char} (h : Escaped s) : Unmarked (splitUser s).1 ∧ Unmarked (splitUser s).2 := by
  have hcolon (c : Char) (hc : (!(c == ':')) = false) : ¬IsHexDigit c := by
    have : c = ':' := by simpa using hc
    subst this
    decide
  obtain ⟨huser, hrest⟩ := h.takeWhile_dropWhile hcolon
  have hpassword : Escaped ((s.dropWhile (!· == ':')).drop 1) := by
    cases hdrop : s.dropWhile (!· == ':') with
    | nil => exact .nil
    | cons c t =>
      have hc : (!(c == ':')) = false := eq_false_of_mem_head?_dropWhile (s := s) (by rw [hdrop]; rfl)
      rw [hdrop] at hrest
      exact hrest.of_cons (by rintro rfl; exact absurd hc (by decide))
  exact ⟨.encode huser Percent.spares_userSet rfl rfl, .encode hpassword Percent.spares_userSet rfl rfl⟩

end Url

namespace Request

open Url

theorem Thins.fragment {s t : List Char} (h : Thins s t) : Thins (fragment s) (fragment t) := by
  have hdrop := h.dropWhile (p := (· != '#')) fun c hc => by
    rw [bne_iff_ne]
    rintro rfl
    exact absurd hc (by decide)
  unfold Request.fragment
  cases hs : s.dropWhile (· != '#') with
  | nil =>
    rw [hs] at hdrop
    generalize t.dropWhile (· != '#') = u at hdrop
    cases hdrop
    exact .nil
  | cons c tail =>
    have hc : c = '#' := by simpa using eq_false_of_mem_head?_dropWhile (p := (· != '#')) (s := s) (by simp [hs])
    rw [hs, hc] at hdrop
    generalize t.dropWhile (· != '#') = u at hdrop
    cases hdrop with
    | keep h => exact h
    | drop hblank => exact absurd hblank (by decide)

/-- Tidying makes no percent sign stray. -/
theorem HasNoStray.tidy {s : List Char} (h : HasNoStray s) : HasNoStray (tidy s) where
  unqueried := by
    refine ((thins_tidy s).takeWhile fun c hc => ?_).escaped h.unqueried
    rw [Bool.and_eq_true, bne_iff_ne, bne_iff_ne]
    constructor
    all_goals
      rintro rfl
      exact absurd hc (by decide)
  fragment := (Thins.fragment (thins_tidy s)).escaped h.fragment

/-- Neither mark stands before the rest of a text, so that both are looked for there. -/
theorem unqueried_of_divides {t start authority : List Char} {f : Front} (h : Divides t start authority f) :
    unqueried t = start ++ authority ++ unqueried f.rest ∧ fragment t = fragment f.rest := by
  have hunmarked : ∀ c ∈ start ++ authority, c ≠ '?' ∧ c ≠ '#' := by
    intro c hc
    rcases List.mem_append.1 hc with hc | hc
    · have hchar := h.scheme c hc
      constructor
      all_goals
        rintro rfl
        revert hchar
        decide
    · have hchar := h.inside c hc
      constructor
      all_goals
        rintro rfl
        revert hchar
        decide
  rw [h.text, ← List.append_assoc]
  exact unqueried_append hunmarked f.rest

/-- The parts of a text without stray percent signs have none either. -/
theorem parts_of_divides {t start authority : List Char} {f : Front} (h : Divides t start authority f)
    (ht : HasNoStray t) : Escaped authority ∧ Escaped (splitTail f.rest).1 ∧
      ∀ g, (splitTail f.rest).2.2 = some g → Escaped g := by
  have hstart : '%' ∉ start := fun hc => absurd (h.scheme _ hc) (by decide)
  obtain ⟨hunqueried, hsame⟩ := unqueried_of_divides h
  obtain ⟨hpath, hfragment⟩ := splitTail_eq f.rest
  have hpage := ht.unqueried
  rw [hunqueried, List.append_assoc] at hpage
  have hbehind := hpage.of_append hstart
  have hends (c : Char) (hc : c ∈ (unqueried f.rest).head?) : ¬IsHexDigit c := by
    rw [unqueried, List.head?_takeWhile] at hc
    have hmark := h.behind c (Option.mem_filter_iff.1 hc).1
    simp only [endsAuthority, Bool.or_eq_true, beq_iff_eq, Bool.true_and] at hmark
    rcases hmark with ((rfl | rfl) | rfl) | rfl
    all_goals decide
  have hsplit := hbehind.split_append hends
  refine ⟨hsplit.1, hpath ▸ hsplit.2, fun g hg => ?_⟩
  rw [hg, Option.getD_some, ← hsame] at hfragment
  exact hfragment ▸ ht.fragment

/-- An address that is read from a text without stray percent signs. -/
theorem isEscaped_of_parse {s : List Char} {u : Web} (hs : HasNoStray s) (h : Address.parse s = .ok (.web u)) :
    u.IsEscaped := by
  obtain ⟨start, authority, f, host, port, hdivides, hhost, -, hparts⟩ := divides_of_parse h
  obtain ⟨hauthority, hpath, hfragment⟩ := parts_of_divides hdivides hs.tidy
  have hcredentials : Escaped (f.credentials.getD []) := by
    cases hc : f.credentials with
    | none => exact .nil
    | some c =>
      obtain ⟨place, rfl⟩ := hdivides.login c hc
      exact (hauthority.split (by decide)).1
  obtain ⟨huser, hpassword⟩ := splitUser_unmarked hcredentials
  rw [← hparts]
  exact {
    user := huser
    password := hpassword
    host := Host.unmarked_render hhost
    path := fun segment => Path.unmarked_of_mem_parse hpath
    query := fun q hq => by
      obtain ⟨raw, -, rfl⟩ := Option.map_eq_some_iff.1 hq
      exact Percent.not_mem_encode (by decide) (by decide) (by decide) raw
    fragment := fun g hg => by
      obtain ⟨raw, hraw, rfl⟩ := Option.map_eq_some_iff.1 hg
      exact Percent.escaped_encode Percent.spares_fragmentSet (hfragment raw hraw) }

/-- The address of a request that was built has a page, perhaps a query, and perhaps a fragment. Two hexadecimal digits
follow each percent sign of it, unless that stands in the query. -/
theorem address_escaped {r : Record} {d : Deployment} {q : Request} (h : build r d = .ok q) :
    (∃ page, q.address.toList = page ++ q.url.query.elim [] ('?' :: ·) ++ q.url.fragment.elim [] ('#' :: ·) ∧
      '?' ∉ page ∧ '#' ∉ page ∧ ∀ s, q.url.query = some s → '#' ∉ s) ∧
    ∀ before behind, q.address.toList = before ++ '%' :: behind → ¬('?' ∈ before ∧ '#' ∉ before) →
      BeginsWithDigits behind := by
  obtain ⟨url, hurl, -, rfl⟩ := build_eq_ok_iff.1 h
  have hescaped := (isEscaped_of_parse hurl.escapes hurl.parse).withoutCredentials
  obtain ⟨page, hpage, hrender⟩ := hescaped.render
  rw [Request.address, String.toList_ofList, hrender]
  exact ⟨⟨page, rfl, hpage.question, hpage.hash, hescaped.query⟩, fun before behind heq hout =>
    beginsWithDigits_of_parts hpage hescaped.query hescaped.fragment heq hout⟩

/-- An address of which little is left as it was given, with a stray percent sign in its query. -/
theorem address_escaped_rewritten :
    let d : Deployment := { endpoint := " HTTP:\\\\%41@c%2eb:80\\x%7e/%2E%2e/y z%20?%#f%25g<\n" }
    ∃ q, build ⟨"select 1", "u", 0⟩ d = .ok q ∧ q.address = "http://c.b/y%20z%20?%#f%25g%3C" ∧
      BeginsWithDigits "25g%3C".toList := by
  intro d
  have hbuild : ∃ q, build ⟨"select 1", "u", 0⟩ d = .ok q ∧ q.address = "http://c.b/y%20z%20?%#f%25g%3C" := by
    decide +kernel
  obtain ⟨q, hq, haddress⟩ := hbuild
  refine ⟨q, hq, haddress, (address_escaped hq).2 "http://c.b/y%20z%20?%#f".toList _ ?_ (by decide)⟩
  rw [haddress]
  rfl

end Request

end QueryAudit
