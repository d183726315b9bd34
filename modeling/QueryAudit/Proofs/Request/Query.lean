import Mathlib.Data.Bool.AllAny
import QueryAudit.Proofs.Request
import QueryAudit.Proofs.Url.Tidy
/-!
# Endpoints with a query

`build_query`: whatever is put behind a question mark, an endpoint that a request can be built for is one still. The
request is the same but for its address, and that has the query behind it.
-/

namespace QueryAudit

namespace Url

/-- Behind a text that does not end in a blank, a query is tidied for itself. -/
theorem tidy_query {s : List Char} (hne : s ≠ []) (hend : ∀ c ∈ s.getLast?, isTrimmed c = false) (t : List Char) :
    tidy (s ++ '?' :: t) = tidy s ++ '?' :: tidyEnd t := by
  have hlast := List.getLast?_eq_some_getLast hne
  have hblank : isTrimmed (s.getLast hne) = false := hend _ hlast
  rw [tidy_append ⟨_, List.getLast_mem hne, hblank⟩ ⟨'?', List.mem_cons_self, rfl⟩, tidyEnd_cons rfl,
    tidy_eq_tidyStart hend]

/-- What stands behind the authority of an address is part of its text. -/
theorem mem_of_mem_rest {s name rest authority place : List Char} {f : Front} {c : Char}
    (hscheme : scheme? (tidy s) = some (name, rest)) (hfronts : Fronts (rest.dropWhile Path.isSlash) authority place f)
    (hc : c ∈ f.rest) : c ∈ s := by
  obtain ⟨word, hword, -⟩ := of_scheme? hscheme
  have hbehind : c ∈ rest.dropWhile Path.isSlash := by
    rw [hfronts.text]
    exact List.mem_append_right _ hc
  have htidy : c ∈ tidy s := by
    rw [hword]
    exact List.mem_append_right _ (List.mem_cons_of_mem _ ((List.dropWhile_sublist Path.isSlash).mem hbehind))
  exact (thins_tidy s).mem htidy

/-- A web address that has neither a query nor a fragment takes a query. Its end is tidied for itself. -/
theorem parse_query {s t : List Char} {u : Web} (h : Address.parse s = .ok (.web u)) (hs : ∀ c ∈ s, c ≠ '?' ∧ c ≠ '#')
    (hend : ∀ c ∈ s.getLast?, isTrimmed c = false) (ht : '#' ∉ t) :
    u.query = none ∧ u.fragment = none ∧ Address.parse (s ++ '?' :: t) =
      .ok (.web { u with query := some (Percent.encode Percent.querySet (tidyEnd t)) }) := by
  obtain ⟨scheme, rest, authority, place, f, host, port, hscheme, hfronts, hne, hhost, hport, rfl⟩ := parse_eq_web_iff.1 h
  have hnonempty : s ≠ [] := by
    rintro rfl
    cases hscheme
  have hrest : ∀ c ∈ f.rest, c ≠ '?' ∧ c ≠ '#' := fun c hc => hs c (mem_of_mem_rest hscheme hfronts hc)
  have hhash : '#' ∉ tidyEnd t := fun hc => ht (mem_of_mem_tidyEnd hc)
  have htail : splitTail f.rest = (f.rest, none, none) := by
    simpa using splitTail_append none none hrest nofun
  have htail' : splitTail (f.rest ++ '?' :: tidyEnd t) = (f.rest, some (tidyEnd t), none) := by
    simpa using splitTail_append (some (tidyEnd t)) none hrest (by simpa using hhash)
  refine ⟨by simp [Web.ofParts, htail], by simp [Web.ofParts, htail], ?_⟩
  -- The scheme and the authority are found where they were; only the rest behind them is longer.
  refine parse_eq_web_iff.2 ⟨scheme, rest ++ '?' :: tidyEnd t, authority, place,
    { f with rest := f.rest ++ '?' :: tidyEnd t }, host, port, ?_, ?_, hne, hhost, hport, ?_⟩
  · rw [tidy_query hnonempty hend]
    exact scheme?_append hscheme _
  · rw [dropWhile_append_of_head? (by simp [Path.isSlash])]
    exact hfronts.append (by simp [endsAuthority])
  · simp [Web.ofParts, htail, htail']

theorem Web.withoutCredentials_query (u : Web) (query : Option (List Char)) :
    { u with query }.withoutCredentials = { u.withoutCredentials with query } := by
  unfold Web.withoutCredentials
  dsimp only
  split
  · rfl
  · rfl
  split <;> rfl

/-- A percent sign of a query is sent as it is. -/
theorem Percent.encode_querySet_percent (s t : List Char) :
    encode querySet (s ++ '%' :: t) = encode querySet s ++ '%' :: encode querySet t := by
  rw [encode, List.flatMap_append, List.flatMap_cons, encodeChar_of_spared rfl (by decide)]
  rfl

end Url

namespace Request

open Url

/-- A query changes nothing about the percent signs of an endpoint, since none of its own are looked at. -/
theorem HasNoStray.query {s t : List Char} (h : HasNoStray s) (hs : ∀ c ∈ s, c ≠ '?' ∧ c ≠ '#') (ht : '#' ∉ t) :
    HasNoStray (s ++ '?' :: t) := by
  obtain ⟨hunqueried, -⟩ := unqueried_append hs []
  rw [List.append_nil] at hunqueried
  have hpage : Unmarked s := {
    escaped := by
      have hescaped := h.unqueried
      rwa [hunqueried, Request.unqueried, List.takeWhile_nil, List.append_nil] at hescaped
    question := fun hc => (hs _ hc).1 rfl
    hash := fun hc => (hs _ hc).2 rfl }
  simpa using hasNoStray_of_parts (some t) none hpage (by simpa using ht) (by simp)

/-- An endpoint that has neither takes a query. Its address is the same but for that. -/
theorem Addresses.query {e text : String} {url : Web} (h : Addresses e url) (hmarks : ∀ c ∈ e.toList, c ≠ '?' ∧ c ≠ '#')
    (hend : ∀ c ∈ e.toList.getLast?, 0x20 < c.toNat) (htext : '#' ∉ text.toList) :
    url.query = none ∧ url.fragment = none ∧ Addresses (e ++ "?" ++ text)
      { url with query := some (Percent.encode Percent.querySet (tidyEnd text.toList)) } := by
  have hlist : (e ++ "?" ++ text).toList = e.toList ++ '?' :: text.toList := by
    rw [String.toList_append, String.toList_append, List.append_assoc]
    rfl
  obtain ⟨hquery, hfragment, hparse⟩ := parse_query h.parse hmarks
    (fun c hc => isTrimmed_eq_false_iff.2 (hend c hc)) htext
  refine ⟨hquery, hfragment, ?_, ?_, ?_⟩
  · intro hempty
    rw [← String.toList_inj, hlist] at hempty
    simp at hempty
  · rw [hlist]
    exact h.escapes.query hmarks htext
  · rw [hlist, hparse]

/-- A query is passed on as it is and never in the way of a request. If a request can be built for an endpoint that has
neither query nor fragment and does not end in a blank, then also with a question mark and any text without a hash
behind it. It has the same headers and the same body, and its address is the one there was, a question mark, and the
text: without the blanks that count for nothing, encoded as far as a query has to be, and with its percent signs. -/
theorem build_query {r : Record} {d : Deployment} {q : Request} {text : String} (h : build r d = .ok q)
    (hmarks : ∀ c ∈ d.endpoint.toList, c ≠ '?' ∧ c ≠ '#') (hend : ∀ c ∈ d.endpoint.toList.getLast?, 0x20 < c.toNat)
    (htext : '#' ∉ text.toList) :
    ∃ q', build r { d with endpoint := d.endpoint ++ "?" ++ text } = .ok q' ∧ q'.headers = q.headers ∧ q'.body = q.body ∧
      q'.address.toList = q.address.toList ++ '?' :: Percent.encode Percent.querySet (tidyEnd text.toList) ∧
      ∀ before behind, tidyEnd text.toList = before ++ '%' :: behind →
        Percent.encode Percent.querySet (tidyEnd text.toList) =
          Percent.encode Percent.querySet before ++ '%' :: Percent.encode Percent.querySet behind := by
  obtain ⟨url, hurl, htoken, rfl⟩ := build_eq_ok_iff.1 h
  obtain ⟨hquery, hfragment, hurl'⟩ := hurl.query hmarks hend htext
  refine ⟨_, build_eq_ok_iff.2 ⟨_, hurl', htoken, rfl⟩, rfl, rfl, ?_, fun before behind heq => ?_⟩
  · have hnone : url.withoutCredentials.query = none ∧ url.withoutCredentials.fragment = none := by
      rcases url.withoutCredentials_cases with hsame | hbare
      · rw [hsame]
        exact ⟨hquery, hfragment⟩
      · rw [hbare]
        exact ⟨hquery, hfragment⟩
    rw [Web.withoutCredentials_query, Request.address, Request.address, String.toList_ofList, String.toList_ofList]
    simp [Web.render, Web.renderPage, Web.credentials, Web.authority, hnone]
  · rw [heq, Percent.encode_querySet_percent]

/-- A query with a bare percent sign, a tab and a letter beyond ASCII, and blanks behind it. -/
theorem build_query_percent :
    let d : Deployment := { endpoint := "http://collector" }
    ∃ q q', build ⟨"select 1", "u", 0⟩ d = .ok q ∧
      build ⟨"select 1", "u", 0⟩ { d with endpoint := "http://collector?a=%\té@:/ \n" } = .ok q' ∧
      q'.headers = q.headers ∧ q'.body = q.body ∧ q'.address = "http://collector/?a=%%C3%A9@:/" := by
  intro d
  have hbuild : ∃ q, build ⟨"select 1", "u", 0⟩ d = .ok q ∧ q.address = "http://collector/" := by
    decide +kernel
  obtain ⟨q, hq, haddress⟩ := hbuild
  have hlast : d.endpoint.toList.getLast? = some 'r' := by decide
  have hend : ∀ c ∈ d.endpoint.toList.getLast?, 0x20 < c.toNat := by
    rw [hlast]
    rintro _ ⟨⟩
    decide
  obtain ⟨q', hq', hheaders, hbody, haddress', -⟩ :=
    @build_query _ d q "a=%\té@:/ \n" hq (List.all_iff_forall_prop.1 (by decide)) hend (by decide)
  refine ⟨q, q', hq, hq', hheaders, hbody, String.toList_inj.1 ?_⟩
  rw [haddress', haddress]
  rfl

end Request

end QueryAudit
