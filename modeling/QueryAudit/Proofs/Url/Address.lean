import QueryAudit.Proofs.Outcome
import QueryAudit.Proofs.Url.Front
/-!
# What an address is read from

`hosted_eq_ok_iff` and `parse_eq_web_iff`: the parts of a web address are read from the parts of a text, one by one.
An address of this kind has a host, and an address of any other kind another scheme.
-/

namespace QueryAudit.Url

theorem Host.ne_empty_of_parse {s : List Char} {host : Host} (h : Host.parse s = .ok host) : host ≠ .domain [] := by
  rintro rfl
  unfold Host.parse at h
  split at h
  · obtain ⟨address, -, haddress⟩ := map_eq_ok_iff.1 h
    cases haddress
  split at h
  · cases h
  next name _ =>
  split at h
  · cases h
  next hname =>
  split at h
  · obtain ⟨address, -, haddress⟩ := map_eq_ok_iff.1 h
    cases haddress
  · cases h
    exact hname rfl

/-- The web address of the parts of a text. -/
def Web.ofParts (scheme : Scheme) (defaultPort : Nat) (f : Front) (host : Host) (port : Option Nat) : Web where
  scheme := scheme
  user := (splitUser (f.credentials.getD [])).1
  password := (splitUser (f.credentials.getD [])).2
  host := host
  port := port.filter (· != defaultPort)
  path := Path.parse (splitTail f.rest).1
  query := (splitTail f.rest).2.1.map (Percent.encode Percent.querySet)
  fragment := (splitTail f.rest).2.2.map (Percent.encode Percent.fragmentSet)

theorem hosted_eq_ok_iff {scheme : Scheme} {defaultPort : Nat} {s : List Char} {u : Web} :
    hosted scheme defaultPort s = .ok u ↔ ∃ f host port, front true s = .ok f ∧ f.host ≠ [] ∧
      Host.parse f.host = .ok host ∧ port? f.port = .ok port ∧ Web.ofParts scheme defaultPort f host port = u := by
  unfold hosted
  constructor
  · intro h
    obtain ⟨f, hf, h⟩ := bind_eq_ok_iff.1 h
    by_cases hne : f.host.isEmpty
    · rw [if_pos hne] at h
      cases h
    rw [if_neg hne] at h
    obtain ⟨host, hhost, h⟩ := bind_eq_ok_iff.1 h
    obtain ⟨port, hport, h⟩ := bind_eq_ok_iff.1 h
    exact ⟨f, host, port, hf, fun hnil => hne (List.isEmpty_iff.2 hnil), hhost, hport, Except.ok.inj h⟩
  · rintro ⟨f, host, port, hf, hne, hhost, hport, rfl⟩
    simp only [hf, hhost, hport, bind, Except.bind]
    rw [if_neg (by simpa using hne)]
    rfl

/-- A web address is read from behind its scheme. -/
theorem web_of_parse {s : List Char} {u : Web} (h : Address.parse s = .ok (.web u)) :
    ∃ rest, scheme? (tidy s) = some (u.scheme.name, rest) ∧
      hosted u.scheme u.scheme.defaultPort (rest.dropWhile Path.isSlash) = .ok u := by
  have hscheme {scheme : Scheme} {t : List Char} (hu : hosted scheme scheme.defaultPort t = .ok u) : u.scheme = scheme := by
    obtain ⟨f, host, port, -, -, -, -, rfl⟩ := hosted_eq_ok_iff.1 hu
    rfl
  unfold Address.parse at h
  split at h
  · cases h
  next name rest hname =>
  dsimp only at h
  split at h
  · next hhttp =>
    obtain ⟨v, hv, hweb⟩ := map_eq_ok_iff.1 h
    cases hweb
    exact ⟨rest, by rw [hname, hhttp, hscheme hv], by rw [hscheme hv]; exact hv⟩
  split at h
  · next hhttps =>
    obtain ⟨v, hv, hweb⟩ := map_eq_ok_iff.1 h
    cases hweb
    exact ⟨rest, by rw [hname, hhttps, hscheme hv], by rw [hscheme hv]; exact hv⟩
  -- Under every other scheme the result is foreign.
  split at h
  · obtain ⟨_, -, hweb⟩ := map_eq_ok_iff.1 h
    cases hweb
  split at h
  all_goals
    obtain ⟨_, -, hweb⟩ := map_eq_ok_iff.1 h
    cases hweb

theorem parse_of_hosted {s rest : List Char} {u : Web} (hscheme : scheme? (tidy s) = some (u.scheme.name, rest))
    (hu : hosted u.scheme u.scheme.defaultPort (rest.dropWhile Path.isSlash) = .ok u) :
    Address.parse s = .ok (.web u) := by
  unfold Address.parse
  rw [hscheme]
  cases hkind : u.scheme with
  | http =>
    rw [hkind] at hu
    dsimp only
    rw [if_pos rfl, hu]
    rfl
  | https =>
    rw [hkind] at hu
    dsimp only
    rw [if_neg (by decide), if_pos rfl, hu]
    rfl

/-- A text is a web address exactly if it has the scheme of one, and its parts behind the slashes are those of one. -/
theorem parse_eq_web_iff {s : List Char} {u : Web} : Address.parse s = .ok (.web u) ↔
    ∃ scheme rest authority place f host port, scheme? (tidy s) = some (Scheme.name scheme, rest) ∧
      Fronts (rest.dropWhile Path.isSlash) authority place f ∧ f.host ≠ [] ∧ Host.parse f.host = .ok host ∧
      port? f.port = .ok port ∧ u = Web.ofParts scheme scheme.defaultPort f host port := by
  constructor
  · intro h
    obtain ⟨rest, hscheme, hu⟩ := web_of_parse h
    obtain ⟨f, host, port, hf, hne, hhost, hport, hparts⟩ := hosted_eq_ok_iff.1 hu
    obtain ⟨authority, place, hfronts⟩ := fronts_of_front hf
    exact ⟨u.scheme, rest, authority, place, f, host, port, hscheme, hfronts, hne, hhost, hport, hparts.symm⟩
  · rintro ⟨scheme, rest, authority, place, f, host, port, hscheme, hfronts, hne, hhost, hport, rfl⟩
    exact parse_of_hosted hscheme (hosted_eq_ok_iff.2 ⟨f, host, port, hfronts.front hne, hne, hhost, hport, rfl⟩)

/-- An address that is written with the two slashes has the parts that stand behind them. -/
theorem parse_of_fronts {text s authority place : List Char} {scheme : Scheme} {f : Front} {host : Host}
    {port : Option Nat} (htext : tidy text = scheme.start ++ s) (hfronts : Fronts s authority place f) (hne : f.host ≠ [])
    (hhost : Host.parse f.host = .ok host) (hport : port? f.port = .ok port) :
    Address.parse text = .ok (.web (Web.ofParts scheme scheme.defaultPort f host port)) := by
  obtain ⟨hscheme, hbehind⟩ := scheme?_start scheme (hfronts.isSlash_head hne)
  refine parse_eq_web_iff.2 ⟨scheme, _, authority, place, f, host, port, htext ▸ hscheme, ?_, hne, hhost, hport, rfl⟩
  rw [hbehind]
  exact hfronts

/-- An address is left as it is, or user name and password are taken out. -/
theorem Web.withoutCredentials_cases (u : Web) :
    u.withoutCredentials = u ∨ u.withoutCredentials = { u with user := [], password := [] } := by
  unfold Web.withoutCredentials
  split
  · exact .inl rfl
  · exact .inr rfl
  split
  · exact .inl rfl
  · exact .inr rfl

/-- An address without a login has none to lose. -/
theorem Web.eq_of_nil {u : Web} (huser : u.user = []) (hpassword : u.password = []) :
    { u with user := [], password := [] } = u := by
  cases u
  cases huser
  cases hpassword
  rfl

theorem Web.withoutCredentials_of_nil {u : Web} (huser : u.user = []) (hpassword : u.password = []) :
    u.withoutCredentials = u := by
  rcases u.withoutCredentials_cases with h | h
  · exact h
  · rw [h, eq_of_nil huser hpassword]

theorem hasHost_of_parse {s : List Char} {u : Web} (h : Address.parse s = .ok (.web u)) : u.hasHost = true := by
  obtain ⟨rest, -, hu⟩ := web_of_parse h
  obtain ⟨f, host, port, -, -, hhost, -, hparts⟩ := hosted_eq_ok_iff.1 hu
  rw [Web.hasHost, ← hparts]
  exact bne_iff_ne.2 (Host.ne_empty_of_parse hhost)

/-! ## The parts of a text -/

/-- A text up to its path, cut into what stands before the authority and the authority, and what is read from there. -/
structure Divides (t start authority : List Char) (f : Front) : Prop where
  text : t = start ++ (authority ++ f.rest)
  /-- A scheme, a colon and slashes. -/
  scheme : ∀ c ∈ start, isSchemeChar c = true ∨ c = ':' ∨ Path.isSlash c = true
  inside : ∀ c ∈ authority, endsAuthority true c = false
  behind : ∀ c ∈ f.rest.head?, endsAuthority true c = true
  login : ∀ s, f.credentials = some s → ∃ place, authority = s ++ '@' :: place

theorem of_scheme? {s name rest : List Char} (h : scheme? s = some (name, rest)) :
    ∃ word, s = word ++ ':' :: rest ∧ ∀ c ∈ word, isSchemeChar c = true := by
  unfold scheme? at h
  split at h
  · cases h
  split at h
  · split at h
    · next word rest' hsplit =>
      cases h
      obtain ⟨rfl, hdrop⟩ := Prod.mk.inj hsplit
      refine ⟨_, (List.takeWhile_append_dropWhile.symm.trans (congrArg _ hdrop)), fun c hc => ?_⟩
      simpa using List.mem_takeWhile_imp hc
    · cases h
  · cases h

/-- A web address is read from the parts of a tidied text. -/
theorem divides_of_parse {s : List Char} {u : Web} (h : Address.parse s = .ok (.web u)) :
    ∃ start authority f host port, Divides (tidy s) start authority f ∧ Host.parse f.host = .ok host ∧
      port? f.port = .ok port ∧ Web.ofParts u.scheme u.scheme.defaultPort f host port = u := by
  obtain ⟨scheme, rest, authority, place, f, host, port, hscheme, hfronts, -, hhost, hport, rfl⟩ := parse_eq_web_iff.1 h
  obtain ⟨word, hs, hword⟩ := of_scheme? hscheme
  refine ⟨word ++ ':' :: rest.takeWhile Path.isSlash, authority, f, host, port, ?_, hhost, hport, rfl⟩
  exact {
    text := by
      rw [← hfronts.text, hs, List.append_assoc, List.cons_append, List.takeWhile_append_dropWhile]
    scheme := fun c hc => by
      rcases List.mem_append.1 hc with hc | hc
      · exact .inl (hword c hc)
      · exact .inr ((List.mem_cons.1 hc).imp_right fun hc => List.mem_takeWhile_imp hc)
    inside := hfronts.inside
    behind := hfronts.behind
    login := fun s hs => ⟨place, of_splitCredentials (hs ▸ hfronts.login)⟩ }

/-- What is no web address has another scheme. -/
theorem ne_of_parse_foreign {s name : List Char} (h : Address.parse s = .ok (.foreign name)) :
    name ≠ Scheme.http.name ∧ name ≠ Scheme.https.name := by
  unfold Address.parse at h
  split at h
  · cases h
  next scheme rest _ =>
  dsimp only at h
  split at h
  · obtain ⟨_, -, hweb⟩ := map_eq_ok_iff.1 h
    cases hweb
  next hhttp =>
  split at h
  · obtain ⟨_, -, hweb⟩ := map_eq_ok_iff.1 h
    cases hweb
  next hhttps =>
  split at h
  · obtain ⟨_, -, hforeign⟩ := map_eq_ok_iff.1 h
    cases hforeign
    exact ⟨hhttp, hhttps⟩
  split at h
  all_goals
    obtain ⟨_, -, hforeign⟩ := map_eq_ok_iff.1 h
    cases hforeign
    exact ⟨hhttp, hhttps⟩

end QueryAudit.Url
