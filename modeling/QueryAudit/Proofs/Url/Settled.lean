import Mathlib.Data.Bool.AllAny
import QueryAudit.Proofs.Url.Host
import QueryAudit.Proofs.Url.Path
import QueryAudit.Proofs.Url.Tidy
/-!
# Web addresses that are read back

`Web.parse_render`: a settled address is read from what it is written as, with all its parts. `Web.settled_of_parse`:
every web address that is read is settled, unless its host has labels that stand for others.
-/

namespace QueryAudit.Url

/-- What holds of every ASCII character that a component can hold holds in a clean text. -/
theorem Percent.Clean.forall_mem {set : Char → Bool} {s : List Char} (h : Clean set s) {P : Char → Prop}
    (hset : ∀ n, n < 0x80 → set (Char.ofNat n) = false → P (Char.ofNat n)) : ∀ c ∈ s, P c := fun c hc =>
  forall_ascii (P := fun c => set c = false → P c) hset (h c hc).1 (h c hc).2

theorem Percent.spares_querySet : Spares querySet := spares_of_ascii (by decide)

theorem lt_of_port? {s : List Char} {port : Nat} (h : port? s = .ok (some port)) : port < 65536 := by
  unfold port? at h
  split at h
  · cases h
  · cases h
  · split at h
    · split at h
      · next hlt =>
        cases h
        exact hlt
      · cases h
    · cases h

namespace Web

/-- An address as it is once it is read. -/
structure Settled (u : Web) : Prop where
  user : Percent.Clean Percent.userSet u.user
  password : Percent.Clean Percent.userSet u.password
  host : u.host.Settled
  port : ∀ port, u.port = some port → port < 65536 ∧ port ≠ u.scheme.defaultPort
  path : u.path.Settled
  query : ∀ q, u.query = some q → Percent.Clean Percent.querySet q
  fragment : ∀ f, u.fragment = some f → Percent.Clean Percent.fragmentSet f

theorem settled_of_parse {s : List Char} {u : Web} (h : Address.parse s = .ok (.web u))
    (hsign : ∀ label ∈ Text.cutAt '.' u.host.render, ¬Domain.sign <+: label) : u.Settled := by
  obtain ⟨scheme, -, -, -, f, host, port, -, -, -, hhost, hport, rfl⟩ := parse_eq_web_iff.1 h
  exact {
    user := Percent.clean_encode Percent.spares_userSet _
    password := Percent.clean_encode Percent.spares_userSet _
    host := Host.settled_of_parse hhost hsign
    port := fun p hp => by
      obtain ⟨hsome, hne⟩ := Option.filter_eq_some_iff.1 hp
      exact ⟨lt_of_port? (hsome ▸ hport), bne_iff_ne.1 hne⟩
    path := Path.settled_parse _
    query := fun q hq => by
      obtain ⟨raw, -, rfl⟩ := Option.map_eq_some_iff.1 hq
      exact Percent.clean_encode Percent.spares_querySet raw
    fragment := fun g hg => by
      obtain ⟨raw, -, rfl⟩ := Option.map_eq_some_iff.1 hg
      exact Percent.clean_encode Percent.spares_fragmentSet raw }

theorem Settled.withoutCredentials {u : Web} (h : u.Settled) : u.withoutCredentials.Settled := by
  rcases u.withoutCredentials_cases with hsame | hbare
  · rw [hsame]
    exact h
  · rw [hbare]
    exact { h with user := Percent.clean_nil _, password := Percent.clean_nil _ }

theorem withoutCredentials_withoutCredentials (u : Web) :
    u.withoutCredentials.withoutCredentials = u.withoutCredentials := by
  rcases u.withoutCredentials_cases with hsame | hbare
  · rw [hsame, hsame]
  · rw [hbare]
    exact withoutCredentials_of_nil rfl rfl

/-! ## The parts of a written address -/

/-- What stands before the at sign. -/
def login (u : Web) : Option (List Char) :=
  if u.user.isEmpty ∧ u.password.isEmpty then none
  else some (u.user ++ if u.password.isEmpty then [] else ':' :: u.password)

/-- A port with its colon. -/
def portText (u : Web) : List Char := u.port.elim [] fun p => ':' :: Numeral.decimal p

/-- What stands behind the authority. -/
def behind (u : Web) : List Char := u.path.render ++ u.query.elim [] ('?' :: ·) ++ u.fragment.elim [] ('#' :: ·)

/-- The parts that are not understood yet. -/
def toFront (u : Web) : Front := ⟨u.login, u.host.render, u.portText, u.behind⟩

theorem render_eq (u : Web) :
    u.render = u.scheme.start ++ (u.login.elim [] (· ++ ['@']) ++ (u.authority ++ u.behind)) := by
  have hcredentials : u.credentials = u.login.elim [] (· ++ ['@']) := by
    unfold credentials login
    split <;> rfl
  rw [render, renderPage, hcredentials, Scheme.start, behind]
  simp only [List.append_assoc]

variable {u : Web} (h : u.Settled)

include h

theorem splitUser_login : splitUser (u.login.getD []) = (u.user, u.password) := by
  have huser : ∀ c ∈ u.user, (c == ':') = false := h.user.forall_mem (by decide +kernel)
  unfold login
  split
  · next hempty =>
    rw [List.isEmpty_iff.1 hempty.1, List.isEmpty_iff.1 hempty.2]
    rfl
  · have hpassword : splitAtFirst (· == ':') (u.user ++ if u.password.isEmpty then [] else ':' :: u.password) =
        (u.user, if u.password.isEmpty then [] else ':' :: u.password) :=
      splitAtFirst_of_forall huser (by split <;> simp)
    rw [Option.getD_some, splitUser, hpassword]
    dsimp only
    rw [h.user.encode]
    split
    · next hempty =>
      rw [List.isEmpty_iff.1 hempty]
      rfl
    · rw [List.drop_one, List.tail_cons, h.password.encode]

theorem port?_portText : port? u.portText = .ok u.port := by
  unfold portText
  cases hport : u.port with
  | none => rfl
  | some p =>
    obtain ⟨d, ds, hdigits⟩ := List.exists_cons_of_ne_nil (Nat.toDigits_ne_nil (b := 10) (n := p))
    have hnumber : Numeral.ofChars? 10 (d :: ds) = some p := hdigits ▸ Numeral.ofChars?_decimal p
    rw [Option.elim_some, Numeral.decimal, hdigits, port?]
    · rw [hnumber]
      exact if_pos (h.port p hport).1
    · simp

theorem filter_port : u.port.filter (· != u.scheme.defaultPort) = u.port := by
  cases hport : u.port with
  | none => rfl
  | some p => rw [Option.filter_some, if_pos (bne_iff_ne.2 (h.port p hport).2)]

theorem char_of_mem_path : ∀ c ∈ u.path.render, isTrimmed c = false ∧ c ≠ '?' ∧ c ≠ '#' :=
  Path.forall_mem_render h.path (by decide) fun _ hs => hs.clean.forall_mem (by decide +kernel)

theorem char_of_mem_authority : ∀ c ∈ u.authority, isTrimmed c = false ∧ endsAuthority true c = false ∧ c ≠ '@' := by
  refine List.forall_mem_append.2 ⟨Host.char_of_mem_render h.host, ?_⟩
  cases u.port with
  | none => nofun
  | some p =>
    refine List.forall_mem_cons.2 ⟨by decide, fun c hc => ?_⟩
    have hdigit := isSome_hexDigit?_iff.1 (Numeral.isSome_hexDigit?_of_mem_toDigits (by decide) (by decide) hc)
    exact char_of_isHexDigit hdigit

theorem char_of_mem_login {s : List Char} (hs : u.login = some s) :
    ∀ c ∈ s, isTrimmed c = false ∧ endsAuthority true c = false := by
  have hchar {s : List Char} (hs : Percent.Clean Percent.userSet s) :
      ∀ c ∈ s, isTrimmed c = false ∧ endsAuthority true c = false := hs.forall_mem (by decide +kernel)
  unfold login at hs
  split at hs
  · cases hs
  · cases hs
    refine List.forall_mem_append.2 ⟨hchar h.user, ?_⟩
    split
    · nofun
    · exact List.forall_mem_cons.2 ⟨by decide, hchar h.password⟩

theorem splitTail_behind : splitTail u.behind = (u.path.render, u.query, u.fragment) :=
  splitTail_append _ _ (fun c hc => (char_of_mem_path h c hc).2) fun q hq hhash =>
    absurd rfl ((h.query q hq).forall_mem (P := (· ≠ '#')) (by decide +kernel) '#' hhash)

theorem fronts_toFront : ∃ authority,
    Fronts (u.login.elim [] (· ++ ['@']) ++ (u.authority ++ u.behind)) authority u.authority u.toFront := by
  -- Without an at sign in host and port the one behind the login is the last.
  have hat : '@' ∉ u.authority := fun hc => (char_of_mem_authority h _ hc).2.2 rfl
  have hplace : Fronts (u.authority ++ u.behind) u.authority u.authority { u.toFront with credentials := none } := {
    text := rfl
    inside := fun c hc => (char_of_mem_authority h c hc).2.1
    behind := fun c hc => by
      rw [toFront, behind, Path.render_eq h.path.ne_nil] at hc
      cases hc
      rfl
    login := splitCredentials_of_not_mem hat
    place := Host.splitHost_render h.host (by cases u.port <;> simp) }
  cases hlogin : u.login with
  | none =>
    refine ⟨u.authority, ?_⟩
    rw [toFront, hlogin]
    exact hplace
  | some s =>
    refine ⟨s ++ '@' :: u.authority, ?_⟩
    have hprepend := hplace.prepend hat fun c hc => (char_of_mem_login h hlogin c hc).2
    rw [toFront, hlogin, Option.elim_some, List.append_assoc]
    exact hprepend

theorem ofParts_toFront : ofParts u.scheme u.scheme.defaultPort u.toFront u.host u.port = u := by
  have hquery : u.query.map (Percent.encode Percent.querySet) = u.query := by
    cases hq : u.query with
    | none => rfl
    | some q => rw [Option.map_some, (h.query q hq).encode]
  have hfragment : u.fragment.map (Percent.encode Percent.fragmentSet) = u.fragment := by
    cases hf : u.fragment with
    | none => rfl
    | some f => rw [Option.map_some, (h.fragment f hf).encode]
  have huser : splitUser (u.toFront.credentials.getD []) = (u.user, u.password) := splitUser_login h
  have htail : splitTail u.toFront.rest = (u.path.render, u.query, u.fragment) := splitTail_behind h
  rw [ofParts, huser, htail, filter_port h, Path.parse_render h.path, hquery, hfragment]

theorem isTrimmed_of_mem_render : ∀ c ∈ u.render, isTrimmed c = false := by
  have hstart : ∀ c ∈ u.scheme.start, isTrimmed c = false :=
    List.all_iff_forall_prop.1 (by cases u.scheme <;> rfl)
  have hlogin : ∀ c ∈ u.login.elim [] (· ++ ['@']), isTrimmed c = false := by
    cases hlogin : u.login with
    | none => nofun
    | some s =>
      exact List.forall_mem_append.2 ⟨fun c hc => (char_of_mem_login h hlogin c hc).1, List.forall_mem_singleton.2 rfl⟩
  have hquery : ∀ c ∈ u.query.elim [] ('?' :: ·), isTrimmed c = false := by
    cases hq : u.query with
    | none => nofun
    | some q => exact List.forall_mem_cons.2 ⟨rfl, (h.query q hq).forall_mem (by decide +kernel)⟩
  have hfragment : ∀ c ∈ u.fragment.elim [] ('#' :: ·), isTrimmed c = false := by
    cases hf : u.fragment with
    | none => nofun
    | some f => exact List.forall_mem_cons.2 ⟨rfl, (h.fragment f hf).forall_mem (by decide +kernel)⟩
  rw [render_eq, behind]
  simp only [List.forall_mem_append]
  exact ⟨hstart, hlogin, fun c hc => (char_of_mem_authority h c hc).1,
    ⟨fun c hc => (char_of_mem_path h c hc).1, hquery⟩, hfragment⟩

theorem parse_render : Address.parse u.render = .ok (.web u) := by
  obtain ⟨authority, hfronts⟩ := fronts_toFront h
  have htext : tidy u.render = u.scheme.start ++ (u.login.elim [] (· ++ ['@']) ++ (u.authority ++ u.behind)) := by
    rw [tidy_eq_self (isTrimmed_of_mem_render h), render_eq]
  have hparse := parse_of_fronts htext hfronts (Host.render_ne_nil h.host) (Host.parse_render h.host) (port?_portText h)
  rwa [ofParts_toFront h] at hparse

end Web

end QueryAudit.Url
