import QueryAudit.Proofs.Url.Percent
import QueryAudit.Proofs.Url.Written
/-!
# Hosts that are read back

`Host.parse_render`: a settled host is read from what it is written as. `Host.settled_of_parse`: every host that is read
is settled, unless it is a domain name with labels that stand for others.
-/

namespace QueryAudit.Url

namespace Domain

/-- The sign of a label that stands for another one. -/
def sign : List Char := ['x', 'n', '-', '-']

/-- A name as it is written: in lower case and ASCII, without labels that stand for others. -/
structure Settled (name : List Char) : Prop where
  char : ∀ c ∈ name, c.toNat < 0x80 ∧ isForbidden c = false ∧ lower c = c
  label : ∀ label ∈ Text.cutAt '.' name, ¬sign <+: label

theorem lower_lower (c : Char) : lower (lower c) = lower c := by
  by_cases hc : c.toNat < 0x80
  · exact forall_ascii (P := fun c => lower (lower c) = lower c) (by decide +kernel) hc
  · rw [lower_of_le (Nat.not_lt.1 hc), lower_of_le (Nat.not_lt.1 hc)]

theorem lower_lt {c : Char} (h : c.toNat < 0x80) : (lower c).toNat < 0x80 :=
  forall_ascii (P := fun c => (lower c).toNat < 0x80) (by decide +kernel) h

theorem lower_eq_dot_iff (c : Char) : lower c = '.' ↔ c = '.' := by
  by_cases hc : c.toNat < 0x80
  · exact forall_ascii (P := fun c => lower c = '.' ↔ c = '.') (by decide +kernel) hc
  · rw [lower_of_le (Nat.not_lt.1 hc)]

/-- A settled name is left as it is. -/
theorem toAscii?_of_settled {name : List Char} (h : Settled name) : toAscii? name = some name := by
  have hunsigned : ∀ label ∈ Text.cutAt '.' name, (afterSign? label).isNone = true := by
    intro label hlabel
    have hchar {c : Char} (hc : c ∈ label) : lower c = c := (h.char c (Text.of_mem_cutAt hlabel c hc).1).2.2
    unfold afterSign?
    split
    · next x n rest =>
      split
      · next hletters =>
        rw [hchar (by simp), hchar (by simp)] at hletters
        obtain ⟨rfl, rfl⟩ := hletters
        exact absurd (List.prefix_append _ rest) (h.label _ hlabel)
      · rfl
    · rfl
  have hplain : isPlain name = true := by
    rw [isPlain, Bool.and_eq_true, List.all_eq_true, List.all_eq_true]
    exact ⟨fun c hc => decide_eq_true (h.char c hc).1, hunsigned⟩
  have hnone : name.any isForbidden = false := List.any_eq_false.2 fun c hc => by simp [(h.char c hc).2.1]
  have hlower : name.map lower = name := by
    rw [List.map_congr_left fun c hc => (h.char c hc).2.2, List.map_id']
  rw [toAscii?, if_pos hplain]
  dsimp only
  rw [hnone, hlower]
  rfl

/-- A name that is brought to ASCII is in ASCII, or a label got the sign. -/
theorem ascii_or_signed {s name : List Char} (h : international? s = some name) :
    (∀ c ∈ name, c.toNat < 0x80) ∨ ∃ label ∈ Text.cutAt '.' name, sign <+: label := by
  unfold international? at h
  split at h
  · cases h
  next labels _ =>
  obtain ⟨-, h⟩ := Option.ite_none_right_eq_some.1 h
  obtain ⟨parts, hparts, rfl⟩ := Option.map_eq_some_iff.1 h
  -- Only a label with other characters is written otherwise than it is, and then with the sign.
  by_cases hascii : ∀ part ∈ parts, ∀ c ∈ part, c.toNat < 0x80
  · exact .inl (Text.forall_mem_intercalate (by simp) hascii)
  · simp only [Classical.not_forall] at hascii
    obtain ⟨part, hpart, c, hc, hlt⟩ := hascii
    have hmem : some part ∈ labels.map write? := mapM_eq_some_iff.1 hparts ▸ List.mem_map_of_mem hpart
    obtain ⟨label, -, hlabel⟩ := List.mem_map.1 hmem
    unfold write? at hlabel
    split at hlabel
    · next hall =>
      cases hlabel
      exact absurd (of_decide_eq_true (List.all_eq_true.1 hall c hc)) hlt
    split at hlabel
    · cases hlabel
    · cases hlabel
      have hdot : '.' ∉ sign := by decide
      obtain ⟨first, rest, -, hcut⟩ := Text.cutAt_append hdot (Punycode.encode label)
      refine .inr ⟨sign ++ first, ?_, List.prefix_append ..⟩
      rw [Text.cutAt_intercalate (List.ne_nil_of_mem hpart)]
      exact List.mem_flatMap.2 ⟨_, hpart, hcut ▸ List.mem_cons_self⟩

theorem settled_of_toAscii? {s name : List Char} (h : toAscii? s = some name)
    (hsign : ∀ label ∈ Text.cutAt '.' name, ¬sign <+: label) : Settled name := by
  have hforbidden := not_isForbidden_of_toAscii? h
  unfold toAscii? at h
  split at h
  · cases h
  next ascii hascii =>
  split at h
  · cases h
  cases h
  have hlt : ∀ c ∈ ascii, c.toNat < 0x80 := by
    split at hascii
    · next hplain =>
      cases hascii
      rw [isPlain, Bool.and_eq_true, List.all_eq_true] at hplain
      exact fun c hc => of_decide_eq_true (hplain.1 c hc)
    · -- A label with the sign would still have it in lower case.
      refine (ascii_or_signed hascii).resolve_right ?_
      rintro ⟨label, hlabel, rest, rfl⟩
      have hcut := Text.cutAt_map lower_eq_dot_iff ascii
      refine hsign ((sign ++ rest).map lower) (hcut ▸ List.mem_map_of_mem hlabel) ?_
      rw [List.map_append]
      exact List.prefix_append ..
  constructor
  · intro c hc
    obtain ⟨d, hd, rfl⟩ := List.mem_map.1 hc
    exact ⟨lower_lt (hlt d hd), hforbidden _ hc, lower_lower d⟩
  · exact hsign

end Domain

theorem Ipv4.settled_render (a : Ipv4) : Domain.Settled a.render where
  char c hc := by
    have hplain : c.isDigit = true ∨ c = '.' := Ipv4.isDigit_of_mem_render c hc
    have hlt : c.toNat < 0x80 := by
      rcases hplain with hdigit | rfl
      · simp only [Char.isDigit, Bool.and_eq_true, decide_eq_true_eq] at hdigit
        exact Nat.lt_of_le_of_lt (UInt32.le_iff_toNat_le.1 hdigit.2) (by decide)
      · decide
    exact ⟨hlt, forall_ascii
      (P := fun c => c.isDigit = true ∨ c = '.' → Domain.isForbidden c = false ∧ Domain.lower c = c)
      (by decide +kernel) hlt hplain⟩
  label label hlabel := by
    rw [Ipv4.cutAt_render] at hlabel
    obtain ⟨n, -, rfl⟩ := List.mem_map.1 hlabel
    intro hsign
    have hx : 'x' ∈ Numeral.decimal n := hsign.subset (by decide)
    exact absurd (Numeral.isDigit_of_mem_decimal hx) (by decide)

/-- A colon outside brackets is looked for behind what has none. -/
theorem splitHost_append {inside : Bool} {s : List Char}
    (hs : ∀ c ∈ s, c ≠ '[' ∧ c ≠ ']' ∧ (c = ':' → inside = true)) (t : List Char) :
    splitHost inside (s ++ t) = (s ++ (splitHost inside t).1, (splitHost inside t).2) := by
  induction s with
  | nil => rfl
  | cons c s ih =>
    obtain ⟨⟨hopen, hclose, hcolon⟩, hs⟩ := List.forall_mem_cons.1 hs
    rw [List.cons_append, splitHost, if_neg fun h => h.2 (hcolon h.1), if_neg hopen, if_neg hclose, ih hs]
    rfl

theorem char_of_isHexDigit {c : Char} (h : IsHexDigit c) :
    isTrimmed c = false ∧ endsAuthority true c = false ∧ c ≠ '@' :=
  forall_ascii (P := fun c => IsHexDigit c → isTrimmed c = false ∧ endsAuthority true c = false ∧ c ≠ '@')
    (by decide +kernel) h.toNat_lt h

namespace Host

/-- A host as it is once it is read: a name that is not an address and needs no reading, or an address that fits. -/
inductive Settled : Host → Prop
  | domain {name} : name ≠ [] → Domain.Settled name → Ipv4.isNumeric name = false → Settled (.domain name)
  | ipv4 {a} : a.Fits → Settled (.ipv4 a)
  | ipv6 {a} : a.Fits → Settled (.ipv6 a)

theorem settled_of_parse {s : List Char} {host : Host} (h : parse s = .ok host)
    (hsign : ∀ label ∈ Text.cutAt '.' host.render, ¬Domain.sign <+: label) : host.Settled := by
  unfold parse at h
  split at h
  · obtain ⟨a, ha, rfl⟩ := map_eq_ok_iff.1 h
    unfold bracketed at ha
    dsimp only at ha
    split at ha
    · exact .ipv6 (Ipv6.fits_of_parse ha)
    · cases ha
  split at h
  · cases h
  next name hname =>
  obtain ⟨decoded, -, htoAscii⟩ := Option.bind_eq_some_iff.1 hname
  split at h
  · cases h
  next hne =>
  split at h
  · obtain ⟨a, ha, rfl⟩ := map_eq_ok_iff.1 h
    exact .ipv4 (Ipv4.fits_of_parse ha)
  · next hnumeric =>
    cases h
    exact .domain (by simpa using hne) (Domain.settled_of_toAscii? htoAscii hsign) (by simpa using hnumeric)

/-- A settled name is only looked at for an address. -/
theorem parse_name {name : List Char} (h : Domain.Settled name) (hne : name ≠ []) :
    parse name = if Ipv4.isNumeric name then (Ipv4.parse name).map .ipv4 else .ok (.domain name) := by
  have hbracket : name.head? ≠ some '[' := fun hhead =>
    absurd (h.char _ (List.mem_of_mem_head? hhead)).2.1 (by decide)
  have hclean : Percent.Clean (fun _ => false) name := fun c hc => ⟨(h.char c hc).1, rfl⟩
  have hdecoded : Percent.decodeText? name = some name :=
    hclean.decodeText? fun hc => absurd (h.char _ hc).2.1 (by decide)
  rw [parse, if_neg hbracket, hdecoded, Option.bind_some, Domain.toAscii?_of_settled h]
  dsimp only
  rw [if_neg (by simpa using hne)]

variable {host : Host} (h : host.Settled)

include h

theorem parse_render : parse host.render = .ok host := by
  cases h with
  | domain hne hname hnumeric => rw [render, parse_name hname hne, if_neg (by simpa using hnumeric)]
  | @ipv4 a ha =>
    rw [render, parse_name a.settled_render a.render_ne_nil, if_pos a.isNumeric_render, Ipv4.parse_render ha]
    rfl
  | @ipv6 a ha =>
    have hbracket : (ipv6 a).render.head? = some '[' := rfl
    have hbracketed : bracketed (ipv6 a).render = .ok a := by simp [bracketed, render, Ipv6.parse_render ha]
    rw [parse, if_pos hbracket, hbracketed]
    rfl

theorem render_ne_nil : host.render ≠ [] := by
  cases h with
  | domain hne => exact hne
  | ipv4 => exact Ipv4.render_ne_nil _
  | ipv6 => exact List.cons_ne_nil _ _

/-- No character of a host is lost or divides the parts of an address. -/
theorem char_of_mem_render : ∀ c ∈ host.render, isTrimmed c = false ∧ endsAuthority true c = false ∧ c ≠ '@' := by
  have hname {name : List Char} (h : Domain.Settled name) :
      ∀ c ∈ name, isTrimmed c = false ∧ endsAuthority true c = false ∧ c ≠ '@' := fun c hc =>
    forall_ascii
      (P := fun c => Domain.isForbidden c = false → isTrimmed c = false ∧ endsAuthority true c = false ∧ c ≠ '@')
      (by decide +kernel) (h.char c hc).1 (h.char c hc).2.1
  cases h with
  | domain _ h => exact hname h
  | ipv4 => exact hname (Ipv4.settled_render _)
  | ipv6 =>
    refine List.forall_mem_append.2 ⟨List.forall_mem_cons.2 ⟨by decide, fun c hc => ?_⟩,
      List.forall_mem_singleton.2 (by decide)⟩
    rcases Ipv6.isSome_hexDigit?_of_mem_render c hc with hdigit | rfl
    · exact char_of_isHexDigit (isSome_hexDigit?_iff.1 hdigit)
    · decide

/-- A host ends where a port begins. -/
theorem splitHost_render {port : List Char} (hport : ∀ c ∈ port.head?, c = ':') :
    splitHost false (host.render ++ port) = (host.render, port) := by
  have hend : splitHost false port = ([], port) := by
    cases port with
    | nil => rfl
    | cons c port => rw [splitHost, if_pos ⟨hport c rfl, by decide⟩]
  have hname {name : List Char} (h : Domain.Settled name) : splitHost false (name ++ port) = (name, port) := by
    have hchar : ∀ c ∈ name, c ≠ '[' ∧ c ≠ ']' ∧ (c = ':' → false = true) := by
      intro c hc
      have hforbidden := (h.char c hc).2.1
      refine ⟨?_, ?_, ?_⟩
      all_goals
        rintro rfl
        exact absurd hforbidden (by decide)
    rw [splitHost_append hchar, hend, List.append_nil]
  cases h with
  | domain _ h => exact hname h
  | ipv4 => exact hname (Ipv4.settled_render _)
  | @ipv6 a =>
    have hchar : ∀ c ∈ a.render, c ≠ '[' ∧ c ≠ ']' ∧ (c = ':' → true = true) := by
      intro c hc
      refine ⟨?_, ?_, fun _ => rfl⟩
      all_goals
        rintro rfl
        exact absurd (Ipv6.isSome_hexDigit?_of_mem_render _ hc) (by decide)
    have hinside : splitHost true (a.render ++ ']' :: port) = (a.render ++ [']'], port) := by
      rw [splitHost_append hchar, splitHost, if_neg (by decide), if_neg (by decide), if_pos rfl, hend]
    rw [render, List.append_assoc, List.cons_append, splitHost, if_neg (by decide), if_pos rfl, List.singleton_append,
      hinside]
    rfl

end Host

end QueryAudit.Url
