import QueryAudit.Proofs.Url.Escapes
import QueryAudit.Url.Address
/-!
# Where an address is cut

`fronts_of_front` and `Fronts.front`: what stands behind the slashes of a text is cut into an authority and a rest, the
authority at its last at sign, and what stands behind that at its first colon outside brackets. `splitAtFirst_append`,
`scheme?_append` and `Fronts.append`: what is put behind a text moves none of these cuts.
-/

namespace QueryAudit.Url

/-! ## The first character of a class -/

section split

variable {p : Char → Bool} {s t : List Char}

theorem splitAtFirst_of_forall (hs : ∀ c ∈ s, p c = false) (ht : ∀ c ∈ t.head?, p c = true) :
    splitAtFirst p (s ++ t) = (s, t) := by
  have hpos : ∀ c ∈ s, (!p c) = true := fun c hc => by simp [hs c hc]
  rw [splitAtFirst, List.takeWhile_append_of_pos hpos, List.dropWhile_append_of_pos hpos]
  cases t with
  | nil => simp
  | cons c t =>
    have hc : p c = true := ht c rfl
    simp [hc]

/-- A text is cut where it was cut if something is put behind it, as long as that does not begin inside the part that
is cut off. -/
theorem splitAtFirst_append (h : (splitAtFirst p s).2 ≠ [] ∨ ∀ c ∈ t.head?, p c = true) :
    splitAtFirst p (s ++ t) = ((splitAtFirst p s).1, (splitAtFirst p s).2 ++ t) := by
  have hs : s = (splitAtFirst p s).1 ++ (splitAtFirst p s).2 := List.takeWhile_append_dropWhile.symm
  conv => lhs; rw [hs, List.append_assoc]
  refine splitAtFirst_of_forall (fun c hc => by simpa using List.mem_takeWhile_imp hc) fun c hc => ?_
  cases hrest : (splitAtFirst p s).2 with
  | nil =>
    rw [hrest] at h hc
    exact (h.resolve_left fun hne => hne rfl) c hc
  | cons d rest =>
    rw [hrest] at hc
    have hhead : c ∈ (s.dropWhile (!p ·)).head? := by
      rw [show s.dropWhile (!p ·) = d :: rest from hrest]
      exact hc
    simpa using eq_false_of_mem_head?_dropWhile hhead

end split

/-! ## The scheme -/

theorem scheme?_name (scheme : Scheme) (rest : List Char) :
    scheme? (scheme.name ++ ':' :: rest) = some (scheme.name, rest) := by
  cases scheme <;> rfl

/-- The start of a web address. -/
def Scheme.start (scheme : Scheme) : List Char := scheme.name ++ [':', '/', '/']

/-- The scheme of a web address, and what stands behind its slashes. -/
theorem scheme?_start (scheme : Scheme) {s : List Char} (hs : ∀ c ∈ s.head?, Path.isSlash c = false) :
    scheme? (scheme.start ++ s) = some (scheme.name, ['/', '/'] ++ s) ∧
      (['/', '/'] ++ s).dropWhile Path.isSlash = s := by
  constructor
  · rw [Scheme.start, List.append_assoc]
    exact scheme?_name scheme _
  · rw [dropWhile_append_of_head? hs]
    rfl

theorem scheme?_append {s name rest : List Char} (h : scheme? s = some (name, rest)) (t : List Char) :
    scheme? (s ++ t) = some (name, rest ++ t) := by
  unfold scheme? at h ⊢
  cases s with
  | nil => cases h
  | cons c s =>
    dsimp only at h
    split at h
    · next hletter =>
      split at h
      · next word rest' hsplit =>
        cases h
        rw [List.cons_append]
        dsimp only
        rw [if_pos hletter, ← List.cons_append, splitAtFirst_append (.inl (by rw [hsplit]; simp)), hsplit]
        rfl
      · cases h
    · cases h

/-! ## The authority -/

theorem splitCredentials_of_not_mem {a : List Char} (h : '@' ∉ a) : splitCredentials a = (none, a) := by
  have hall : a.reverse.takeWhile (· != '@') = a.reverse :=
    List.takeWhile_eq_self_iff.2 fun c hc => bne_iff_ne.2 fun heq => h (heq ▸ List.mem_reverse.1 hc)
  rw [splitCredentials, hall, if_pos (List.length_reverse ..)]

theorem splitCredentials_append {place : List Char} (h : '@' ∉ place) (login : List Char) :
    splitCredentials (login ++ '@' :: place) = (some login, place) := by
  have hbehind : (login ++ '@' :: place).reverse.takeWhile (· != '@') = place.reverse := by
    have hpos : ∀ c ∈ place.reverse, (c != '@') = true := fun c hc => bne_iff_ne.2 fun heq => by
      rw [heq, List.mem_reverse] at hc
      exact h hc
    rw [List.reverse_append, List.reverse_cons, List.append_assoc, List.takeWhile_append_of_pos hpos]
    simp
  have hlength : (login ++ '@' :: place).length - place.length - 1 = login.length := by
    rw [List.length_append, List.length_cons]
    omega
  have hlonger : place.length ≠ (login ++ '@' :: place).length := by
    rw [List.length_append, List.length_cons]
    omega
  rw [splitCredentials, hbehind, List.length_reverse, if_neg hlonger, hlength, List.take_left, List.reverse_reverse]

/-- An authority has no at sign, or it is cut at the last one. -/
theorem splitCredentials_cases (a : List Char) : '@' ∉ a ∧ splitCredentials a = (none, a) ∨
    ∃ login place, a = login ++ '@' :: place ∧ '@' ∉ place ∧ splitCredentials a = (some login, place) := by
  by_cases h : '@' ∈ a
  · obtain ⟨behind, before, ha, hbehind⟩ := List.eq_append_cons_of_mem (List.mem_reverse.2 h)
    obtain rfl : a = before.reverse ++ '@' :: behind.reverse := by
      rw [← List.reverse_reverse a, ha, List.reverse_append, List.reverse_cons, List.append_assoc]
      rfl
    have hplace : '@' ∉ behind.reverse := fun hc => hbehind (List.mem_reverse.1 hc)
    exact .inr ⟨_, _, rfl, hplace, splitCredentials_append hplace _⟩
  · exact .inl ⟨h, splitCredentials_of_not_mem h⟩

theorem of_splitCredentials {a login place : List Char} (h : splitCredentials a = (some login, place)) :
    a = login ++ '@' :: place := by
  rcases splitCredentials_cases a with ⟨-, ha⟩ | ⟨login', place', rfl, -, ha⟩
  · rw [h] at ha
    cases ha
  · rw [h] at ha
    cases ha
    rfl

/-- The front of a text, and the authority that it is read from. -/
structure Fronts (s authority place : List Char) (f : Front) : Prop where
  text : s = authority ++ f.rest
  inside : ∀ c ∈ authority, endsAuthority true c = false
  behind : ∀ c ∈ f.rest.head?, endsAuthority true c = true
  login : splitCredentials authority = (f.credentials, place)
  place : splitHost false place = (f.host, f.port)

theorem fronts_of_front {s : List Char} {f : Front} (h : front true s = .ok f) :
    ∃ authority place, Fronts s authority place f := by
  unfold front at h
  dsimp only at h
  split at h
  · cases h
  cases h
  exact ⟨(splitAtFirst (endsAuthority true) s).1, _, {
    text := List.takeWhile_append_dropWhile.symm
    inside := fun c hc => by simpa using List.mem_takeWhile_imp hc
    behind := fun c hc => by simpa using eq_false_of_mem_head?_dropWhile hc
    login := rfl
    place := rfl }⟩

namespace Fronts

variable {s authority place : List Char} {f : Front}

theorem place_ne_nil (h : Fronts s authority place f) (hne : f.host ≠ []) : place ≠ [] := by
  rintro rfl
  exact hne (Prod.mk.inj h.place).1.symm

theorem front (h : Fronts s authority place f) (hne : f.host ≠ []) : front true s = .ok f := by
  have hsplit : splitAtFirst (endsAuthority true) s = (authority, f.rest) := by
    rw [h.text]
    exact splitAtFirst_of_forall h.inside h.behind
  unfold Url.front
  rw [hsplit]
  dsimp only
  rw [h.login]
  dsimp only
  rw [h.place]
  dsimp only
  rw [if_neg fun hempty => h.place_ne_nil hne (List.isEmpty_iff.1 hempty.2.1)]

/-- An authority does not begin with a slash. -/
theorem isSlash_head (h : Fronts s authority place f) (hne : f.host ≠ []) : ∀ c ∈ s.head?, Path.isSlash c = false := by
  intro c hc
  have hauthority : authority ≠ [] := by
    rintro rfl
    exact h.place_ne_nil hne (Prod.mk.inj h.login).2.symm
  obtain ⟨d, inside, rfl⟩ := List.exists_cons_of_ne_nil hauthority
  rw [h.text] at hc
  cases hc
  have hinside := h.inside c List.mem_cons_self
  simp only [endsAuthority, Bool.or_eq_false_iff, Bool.true_and] at hinside
  simp [Path.isSlash, hinside.1.1.1, hinside.2]

/-- What begins with the end of an authority is only put behind the rest. -/
theorem append (h : Fronts s authority place f) {t : List Char} (ht : ∀ c ∈ t.head?, endsAuthority true c = true) :
    Fronts (s ++ t) authority place { f with rest := f.rest ++ t } where
  text := by rw [h.text, List.append_assoc]
  inside := h.inside
  behind c hc := by
    rw [List.head?_append, Option.mem_def, Option.or_eq_some_iff] at hc
    rcases hc with hc | ⟨-, hc⟩
    · exact h.behind c hc
    · exact ht c hc
  login := h.login
  place := h.place

/-- Credentials may be put in front of an authority that has none. -/
theorem prepend (h : Fronts s authority place f) (hat : '@' ∉ authority) {login : List Char}
    (hlogin : ∀ c ∈ login, endsAuthority true c = false) :
    Fronts (login ++ '@' :: s) (login ++ '@' :: authority) authority { f with credentials := some login } where
  text := by rw [h.text, List.append_assoc, List.cons_append]
  inside := List.forall_mem_append.2 ⟨hlogin, List.forall_mem_cons.2 ⟨rfl, h.inside⟩⟩
  behind := h.behind
  login := splitCredentials_append hat login
  place := by
    have hplace := h.login
    rw [splitCredentials_of_not_mem hat] at hplace
    rw [(Prod.mk.inj hplace).2]
    exact h.place

end Fronts

/-! ## Query and fragment -/

/-- Path, query and fragment are found again, if neither mark stands in front of its place. -/
theorem splitTail_append {path : List Char} (query fragment : Option (List Char))
    (hpath : ∀ c ∈ path, c ≠ '?' ∧ c ≠ '#') (hquery : ∀ q, query = some q → '#' ∉ q) :
    splitTail (path ++ query.elim [] ('?' :: ·) ++ fragment.elim [] ('#' :: ·)) = (path, query, fragment) := by
  have hpage : ∀ c ∈ path ++ query.elim [] ('?' :: ·), (c == '#') = false := by
    intro c hc
    rw [beq_eq_false_iff_ne]
    rintro rfl
    rcases List.mem_append.1 hc with hc | hc
    · exact (hpath _ hc).2 rfl
    cases query with
    | none => cases hc
    | some q =>
      rcases List.mem_cons.1 hc with hc | hc
      · cases hc
      · exact hquery q rfl hc
  have hhash : splitAtFirst (· == '#') (path ++ query.elim [] ('?' :: ·) ++ fragment.elim [] ('#' :: ·)) =
      (path ++ query.elim [] ('?' :: ·), fragment.elim [] ('#' :: ·)) :=
    splitAtFirst_of_forall hpage (by cases fragment <;> simp)
  have hquestion : splitAtFirst (· == '?') (path ++ query.elim [] ('?' :: ·)) = (path, query.elim [] ('?' :: ·)) :=
    splitAtFirst_of_forall (fun c hc => by simp [(hpath c hc).1]) (by cases query <;> simp)
  rw [splitTail, hhash]
  dsimp only
  rw [hquestion]
  cases query <;> cases fragment <;> rfl

end QueryAudit.Url
