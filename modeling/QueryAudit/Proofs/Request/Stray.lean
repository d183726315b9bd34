import QueryAudit.Proofs.Request
/-!
# The escapes of an endpoint

`stray_reported`: the check of an endpoint agrees with looking at every percent sign outside the query, one by one. What
it reports begins at the first one that is stray.
-/

namespace QueryAudit.Request

open Url

/-- A query may be replaced by any other. -/
theorem invalidEscape?_query {s query query' : List Char} (hs : '#' ∉ s) (hquery : '#' ∉ query) (hquery' : '#' ∉ query')
    (t : List Char) : invalidEscape? (s ++ '?' :: query ++ t) = invalidEscape? (s ++ '?' :: query' ++ t) := by
  have hparts {q : List Char} (hq : '#' ∉ q) :
      unqueried (s ++ '?' :: q ++ t) = unqueried s ∧ fragment (s ++ '?' :: q ++ t) = fragment t := by
    have hfront : '#' ∉ s ++ '?' :: q := by simp [hs, hq]
    refine ⟨?_, fragment_append hfront t⟩
    rw [List.append_assoc, List.cons_append, unqueried_query]
  obtain ⟨hpage, hfragment⟩ := hparts hquery
  obtain ⟨hpage', hfragment'⟩ := hparts hquery'
  rw [invalidEscape?_eq, invalidEscape?_eq, hpage, hfragment, hpage', hfragment']

/-- How the escapes of an endpoint are checked. Nothing is wrong with them exactly if no percent sign is stray, neither
before the query nor in the fragment, in the octets of either for itself. Otherwise the report is the first stray one
before the query, or else of the fragment, with up to two characters of its part behind it. The scan jumps over escapes
and yet finds, in any octets, what looking at every place of them finds, and a text can be cut at each place that it
finds. What stands in the query makes no difference. -/
theorem stray_reported (e : List Char) :
    (invalidEscape? e = none ↔
      (∀ i, ¬StrayAt (Utf8.encode (unqueried e)) i) ∧ ∀ i, ¬StrayAt (Utf8.encode (fragment e)) i) ∧
    (∀ i, IsFirstStray (Utf8.encode (unqueried e)) i →
      ∃ before behind, unqueried e = before ++ '%' :: behind ∧ (Utf8.encode before).length = i ∧
        invalidEscape? e = some (('%' :: behind).take 3)) ∧
    ((∀ i, ¬StrayAt (Utf8.encode (unqueried e)) i) → ∀ i, IsFirstStray (Utf8.encode (fragment e)) i →
      ∃ before behind, fragment e = before ++ '%' :: behind ∧ (Utf8.encode before).length = i ∧
        invalidEscape? e = some (('%' :: behind).take 3)) ∧
    (∀ bs, (Percent.strayFrom? 0 bs = none ↔ ∀ i, ¬StrayAt bs i) ∧
      ∀ i, Percent.strayFrom? 0 bs = some i ↔ IsFirstStray bs i) ∧
    (∀ part i, Percent.strayFrom? 0 (Utf8.encode part) = some i →
      ∃ behind, Utf8.dropOctets? i part = some ('%' :: behind)) ∧
    ('#' ∉ e → ∀ query query' t, '#' ∉ query → '#' ∉ query' →
      invalidEscape? (e ++ '?' :: query ++ t) = invalidEscape? (e ++ '?' :: query' ++ t)) := by
  refine ⟨?_, fun i hfirst => ?_, fun hpage i hfirst => ?_,
    fun bs => ⟨Percent.strayFrom?_eq_none_iff, fun i => Percent.strayFrom?_eq_some_iff⟩, fun part i hfound => ?_,
    fun he query query' t hquery hquery' => invalidEscape?_query he hquery hquery' t⟩
  · rw [invalidEscape?_eq_none_iff, ← escaped_iff_not_strayAt, ← escaped_iff_not_strayAt]
    exact ⟨fun h => ⟨h.unqueried, h.fragment⟩, fun h => ⟨h.1, h.2⟩⟩
  · obtain ⟨before, behind, heq, hplace, hescape⟩ := Percent.strayEscape?_at hfirst
    refine ⟨before, behind, heq, hplace, ?_⟩
    rw [invalidEscape?_eq, hescape]
    rfl
  · obtain ⟨before, behind, heq, hplace, hescape⟩ := Percent.strayEscape?_at hfirst
    refine ⟨before, behind, heq, hplace, ?_⟩
    rw [invalidEscape?_eq, Percent.strayEscape?_eq_none_iff.2 (escaped_iff_not_strayAt.2 hpage), hescape]
    rfl
  · obtain ⟨before, behind, rfl, rfl, -⟩ := exists_of_strayAt (Percent.strayFrom?_eq_some_iff.1 hfound).stray
    exact ⟨behind, Utf8.dropOctets?_eq_some_iff.2 ⟨before, rfl, rfl⟩⟩

/-- A letter beyond ASCII on either side of the sign, and signs in the query that do not count. -/
example : invalidEscape? "http://é%4é/?%#%".toList = some "%4é".toList := by decide +kernel

end QueryAudit.Request
