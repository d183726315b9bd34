import QueryAudit.Proofs.Url.Address
import QueryAudit.Proofs.Url.Ipv4
import QueryAudit.Proofs.Url.Ipv6
/-!
# What an address is written with

What stands before the query of a written address is escaped, and none of the marks that begin a query or a fragment
is in it. Each part is so for a reason of its own: hosts and ports have no percent signs at all, user names, passwords
and paths are encoded.
-/

namespace QueryAudit.Url

/-- A text that can stand before a query. -/
structure Unmarked (s : List Char) : Prop where
  escaped : Escaped s
  question : '?' ∉ s
  hash : '#' ∉ s

namespace Unmarked

variable {s t : List Char}

theorem nil : Unmarked [] := ⟨.nil, nofun, nofun⟩

theorem append (hs : Unmarked s) (ht : Unmarked t) : Unmarked (s ++ t) where
  escaped := hs.escaped.append ht.escaped
  question h := (List.mem_append.1 h).elim hs.question ht.question
  hash h := (List.mem_append.1 h).elim hs.hash ht.hash

theorem of_forall (h : ∀ c ∈ s, c ≠ '%' ∧ c ≠ '?' ∧ c ≠ '#') : Unmarked s where
  escaped := .of_not_mem fun hc => (h _ hc).1 rfl
  question hc := (h _ hc).2.1 rfl
  hash hc := (h _ hc).2.2 rfl

theorem cons {c : Char} (hc : c ≠ '%' ∧ c ≠ '?' ∧ c ≠ '#') (hs : Unmarked s) : Unmarked (c :: s) :=
  append (s := [c]) (of_forall fun d hd => by rwa [List.mem_singleton.1 hd]) hs

theorem encode (hs : Escaped s) {set : Char → Bool} (hset : Percent.Spares set) (hquestion : set '?' = true)
    (hhash : set '#' = true) : Unmarked (Percent.encode set s) where
  escaped := Percent.escaped_encode hset hs
  question := Percent.not_mem_encode hquestion (by decide) (by decide) s
  hash := Percent.not_mem_encode hhash (by decide) (by decide) s

end Unmarked

/-! ## Hosts and ports -/

theorem unmarked_decimal (n : Nat) : Unmarked (Numeral.decimal n) := by
  refine .of_forall fun c hc => ⟨?_, ?_, ?_⟩
  all_goals
    rintro rfl
    exact absurd (Numeral.isDigit_of_mem_decimal hc) (by decide)

theorem Ipv4.unmarked_render (a : Ipv4) : Unmarked a.render := by
  refine .of_forall fun c hc => ⟨?_, ?_, ?_⟩
  all_goals
    rintro rfl
    exact absurd (Ipv4.isDigit_of_mem_render _ hc) (by decide)

theorem Ipv6.unmarked_render (a : Ipv6) : Unmarked a.render := by
  refine .of_forall fun c hc => ⟨?_, ?_, ?_⟩
  all_goals
    rintro rfl
    exact absurd (Ipv6.isSome_hexDigit?_of_mem_render _ hc) (by decide)

theorem Domain.lower_of_le {c : Char} (h : 0x80 ≤ c.toNat) : lower c = c :=
  if_neg fun hletter => Nat.not_lt.2 h (Nat.lt_of_le_of_lt (Char.le_def.1 hletter.2) (by decide))

/-- A letter is no less allowed in lower case. -/
theorem Domain.isForbidden_lower {c : Char} (h : isForbidden c = false) : isForbidden (lower c) = false := by
  by_cases hc : c.toNat < 0x80
  · exact forall_ascii (P := fun c => isForbidden c = false → isForbidden (lower c) = false) (by decide +kernel) hc h
  · rwa [lower_of_le (Nat.not_lt.1 hc)]

theorem Domain.not_isForbidden_of_toAscii? {s name : List Char} (h : toAscii? s = some name) :
    ∀ c ∈ name, isForbidden c = false := by
  unfold toAscii? at h
  split at h
  · cases h
  next ascii _ =>
  split at h
  · cases h
  · next hnone =>
    cases h
    intro c hc
    obtain ⟨d, hd, rfl⟩ := List.mem_map.1 hc
    exact isForbidden_lower (by simpa using List.any_eq_false.1 (by simpa using hnone) d hd)

theorem Host.unmarked_render {s : List Char} {host : Host} (h : Host.parse s = .ok host) : Unmarked host.render := by
  unfold Host.parse at h
  split at h
  · obtain ⟨address, -, rfl⟩ := map_eq_ok_iff.1 h
    exact .cons (by decide) ((Ipv6.unmarked_render address).append (.of_forall (by simp)))
  split at h
  · cases h
  next name hname =>
  split at h
  · cases h
  split at h
  · obtain ⟨address, -, rfl⟩ := map_eq_ok_iff.1 h
    exact Ipv4.unmarked_render address
  · cases h
    obtain ⟨decoded, -, htoAscii⟩ := Option.bind_eq_some_iff.1 hname
    refine .of_forall fun c hc => ?_
    have hforbidden := Domain.not_isForbidden_of_toAscii? htoAscii c hc
    refine ⟨?_, ?_, ?_⟩
    all_goals
      rintro rfl
      revert hforbidden
      decide

theorem Web.unmarked_authority {u : Web} (h : Unmarked u.host.render) : Unmarked u.authority := by
  refine h.append ?_
  cases u.port with
  | none => exact .nil
  | some n => exact .cons (by decide) (unmarked_decimal n)

/-! ## Paths -/

/-- A path has no segments but those that were read and stand for themselves, and empty ones. -/
theorem Path.forall_mem_resolve {P : List Char → Prop} {done segments : List (List Char)} (hnil : P [])
    (hdone : ∀ s ∈ done, P s)
    (hsegments : ∀ s ∈ segments, ¬Path.isDoubleDot s = true → ¬Path.isSingleDot s = true → P s) :
    ∀ s ∈ Path.resolve done segments, P s := by
  have hup {done : List (List Char)} (hdone : ∀ s ∈ done, P s) : ∀ s ∈ Path.up done, P s := by
    unfold Path.up
    split
    · exact hdone
    split
    · exact hdone
    · exact (List.forall_mem_cons.1 hdone).2
  have hreverse {done : List (List Char)} {s : List Char} (hs : P s) (hdone : ∀ s ∈ done, P s) :
      ∀ t ∈ (s :: done).reverse, P t := fun t ht => List.forall_mem_cons.2 ⟨hs, hdone⟩ t (List.mem_reverse.1 ht)
  induction done, segments using Path.resolve.induct with
  | case1 done => exact fun s hs => hdone s (List.mem_reverse.1 hs)
  | case2 done t hdouble =>
    rw [Path.resolve, if_pos hdouble]
    exact hreverse hnil (hup hdone)
  | case3 done t hdouble hsingle =>
    rw [Path.resolve, if_neg hdouble, if_pos hsingle]
    exact hreverse hnil hdone
  | case4 done t hdouble hsingle =>
    rw [Path.resolve, if_neg hdouble, if_neg hsingle]
    exact hreverse (hsegments t (List.mem_singleton_self t) hdouble hsingle) hdone
  | case5 done t next rest hdouble ih =>
    rw [Path.resolve, if_pos hdouble]
    exact ih (hup hdone) (List.forall_mem_cons.1 hsegments).2
  | case6 done t next rest hdouble hsingle ih =>
    rw [Path.resolve, if_neg hdouble, if_pos hsingle]
    exact ih hdone (List.forall_mem_cons.1 hsegments).2
  | case7 done t next rest hdouble hsingle ih =>
    rw [Path.resolve, if_neg hdouble, if_neg hsingle]
    obtain ⟨ht, hsegments⟩ := List.forall_mem_cons.1 hsegments
    exact ih (List.forall_mem_cons.2 ⟨ht hdouble hsingle, hdone⟩) hsegments

/-- The segments of an escaped text. -/
theorem Path.unmarked_of_mem_parse {s segment : List Char} (h : Escaped s) (hsegment : segment ∈ Path.parse s) :
    Unmarked segment := by
  have hslashes : Escaped (s.map fun c => if c = '\\' then '/' else c) := by
    refine h.map (fun c hc => ?_) (by decide) fun c hc => ?_
    · split
      · next hback =>
        subst hback
        exact absurd hc (by decide)
      · exact hc
    · split
      · decide
      · exact hc
  unfold Path.parse at hsegment
  generalize s.map (fun c => if c = '\\' then '/' else c) = t at hslashes hsegment
  have hbehind : Escaped (if t.head? = some '/' then t.drop 1 else t) := by
    split
    · next hhead =>
      cases t with
      | nil => cases hhead
      | cons c t =>
        cases hhead
        exact hslashes.of_cons (by decide)
    · exact hslashes
  refine Path.forall_mem_resolve .nil nofun (fun s hs _ _ => ?_) segment hsegment
  obtain ⟨part, hpart, rfl⟩ := List.mem_map.1 hs
  exact .encode (hbehind.of_mem_cutAt (by decide) (by decide) hpart) Percent.spares_pathSet rfl rfl

theorem Path.unmarked_render {p : Path} (h : ∀ s ∈ p, Unmarked s) : Unmarked p.render := by
  induction p with
  | nil => exact .nil
  | cons s p ih =>
    rw [List.forall_mem_cons] at h
    exact .cons (by decide) (h.1.append (ih h.2))

end QueryAudit.Url
