import Mathlib.Data.Bool.AllAny
import QueryAudit.Proofs.Request
import QueryAudit.Proofs.Url.Percent
import QueryAudit.Proofs.Url.Tidy
/-!
# Endpoints with a login

`build_login`: what stands before an at sign in front of the place of an endpoint is in no part of the request. It is
taken out of the address, and the header that is made of it gives way to the one with the token.
-/

namespace QueryAudit

namespace Url

theorem Scheme.name_inj {scheme scheme' : Scheme} (h : scheme.name = scheme'.name) : scheme = scheme' := by
  cases scheme with
  | http =>
    cases scheme' with
    | http => rfl
    | https => cases h
  | https =>
    cases scheme' with
    | http => cases h
    | https => rfl

/-- Behind the start of a web address blanks are lost at the end, and tabs and line breaks anywhere. -/
theorem tidy_start (scheme : Scheme) (s : List Char) {t : List Char} (ht : ∃ c ∈ t, isTrimmed c = false) :
    tidy (scheme.start ++ (s ++ t)) = scheme.start ++ s.filter (!isDropped ·) ++ tidyEnd t := by
  have hstart : ∀ c ∈ scheme.start, isTrimmed c = false :=
    List.all_iff_forall_prop.1 (by cases scheme <;> rfl)
  have hcolon : ':' ∈ scheme.start := List.mem_append_right _ List.mem_cons_self
  rw [← List.append_assoc, tidy_append ⟨':', List.mem_append_left _ hcolon, rfl⟩ ht,
    tidyStart_append hstart (List.ne_nil_of_mem hcolon)]

/-- The first character of a place is neither lost nor taken for a slash. -/
theorem isPlaced_of_begins {c : Char} (h : c.isAlphanum = true ∨ c = '[') :
    isTrimmed c = false ∧ Path.isSlash c = false := by
  constructor
  · rw [isTrimmed_eq_false_iff, ← Nat.not_le]
    intro hle
    exact forall_ascii (P := fun c => c.isAlphanum = true ∨ c = '[' → ¬c.toNat ≤ 0x20) (by decide)
      (Nat.lt_of_le_of_lt hle (by decide)) h hle
  · rw [Path.isSlash, Bool.or_eq_false_iff, beq_eq_false_iff_ne, beq_eq_false_iff_ne]
    constructor
    all_goals
      rintro rfl
      exact absurd h (by decide)

/-- A web address takes a login in front of its place, and is the same but for that. -/
theorem parse_login {scheme : Scheme} {first : Char} {login place : List Char} {u : Web}
    (hfirst : isTrimmed first = false ∧ Path.isSlash first = false) (hat : '@' ∉ first :: place)
    (hlogin : ∀ c ∈ login, endsAuthority true c = false)
    (h : Address.parse (scheme.start ++ first :: place) = .ok (.web u)) :
    u.user = [] ∧ u.password = [] ∧ Address.parse (scheme.start ++ (login ++ '@' :: first :: place)) = .ok (.web
      { u with
        user := (splitUser (login.filter (!isDropped ·))).1
        password := (splitUser (login.filter (!isDropped ·))).2 }) := by
  have hplace : ∃ c ∈ first :: place, isTrimmed c = false := ⟨first, List.mem_cons_self, hfirst.1⟩
  have htidy : tidy (scheme.start ++ first :: place) = scheme.start ++ first :: tidyEnd place := by
    simpa [tidyEnd_cons hfirst.1] using tidy_start scheme [] hplace
  have htidy' : tidy (scheme.start ++ (login ++ '@' :: first :: place)) =
      scheme.start ++ (login.filter (!isDropped ·) ++ '@' :: first :: tidyEnd place) := by
    simpa [tidyEnd_cons hfirst.1, isDropped] using tidy_start scheme (login ++ ['@']) hplace
  -- Both texts are read from behind the same scheme, and in the second only the credentials are others.
  obtain ⟨scheme', rest, authority, place', f, host, port, hscheme, hfronts, hne, hhost, hport, rfl⟩ :=
    parse_eq_web_iff.1 h
  obtain ⟨hstart, hbehind⟩ := scheme?_start scheme (s := first :: tidyEnd place) (by simp [hfirst.2])
  rw [htidy, hstart] at hscheme
  obtain ⟨hname, rfl⟩ := Prod.mk.inj (Option.some.inj hscheme)
  obtain rfl := Scheme.name_inj hname
  rw [hbehind] at hfronts
  -- There is no at sign in what is behind the slashes, so that all of the authority is its place.
  have hnone : '@' ∉ authority := fun hc => hat <| by
    have hmem : '@' ∈ first :: tidyEnd place := hfronts.text ▸ List.mem_append_left _ hc
    exact List.mem_cons.2 ((List.mem_cons.1 hmem).imp_right mem_of_mem_tidyEnd)
  have hcredentials : f.credentials = none := by
    have hlogin := hfronts.login
    rw [splitCredentials_of_not_mem hnone] at hlogin
    exact (Prod.mk.inj hlogin).1.symm
  have hlogin' : ∀ c ∈ login.filter (!isDropped ·), endsAuthority true c = false :=
    fun c hc => hlogin c (List.mem_filter.1 hc).1
  exact ⟨by simp only [Web.ofParts, hcredentials]; rfl, by simp only [Web.ofParts, hcredentials]; rfl,
    parse_of_fronts htidy' (hfronts.prepend hnone hlogin') hne hhost hport⟩

/-- A login without percent signs can be understood, whatever is in it, so that nothing of it stays in the address. -/
theorem withoutCredentials_splitUser {s : List Char} (h : '%' ∉ s) (u : Web) :
    { u with user := (splitUser s).1, password := (splitUser s).2 }.withoutCredentials =
      { u with user := [], password := [] } := by
  have huser : '%' ∉ s.takeWhile (!· == ':') := fun hc => h ((List.takeWhile_sublist _).mem hc)
  have hpassword : '%' ∉ (s.dropWhile (!· == ':')).drop 1 := fun hc =>
    h ((List.dropWhile_sublist _).mem ((List.drop_sublist _ _).mem hc))
  simp only [Web.withoutCredentials, splitUser, splitAtFirst, Percent.decodeText?_encode huser,
    Percent.decodeText?_encode hpassword]

end Url

namespace Request

open Url

/-- A start without percent signs and marks has no stray ones. -/
theorem hasNoStray_append_iff {s t : List Char} (hs : ∀ c ∈ s, c ≠ '?' ∧ c ≠ '#' ∧ c ≠ '%') :
    HasNoStray (s ++ t) ↔ HasNoStray t := by
  obtain ⟨hunqueried, hfragment⟩ := unqueried_append (fun c hc => ⟨(hs c hc).1, (hs c hc).2.1⟩) t
  have hnone : '%' ∉ s := fun hc => (hs _ hc).2.2 rfl
  constructor
  · intro h
    have hpage := h.unqueried
    rw [hunqueried] at hpage
    exact ⟨hpage.of_append hnone, hfragment ▸ h.fragment⟩
  · intro h
    refine ⟨?_, hfragment ▸ h.fragment⟩
    rw [hunqueried]
    exact (Escaped.of_not_mem hnone).append h.unqueried

/-- A login without percent signs and marks changes nothing about the escapes of an endpoint. -/
theorem HasNoStray.login {scheme : Scheme} {login place : List Char} (h : HasNoStray (scheme.start ++ place))
    (hlogin : ∀ c ∈ login, c ≠ '?' ∧ c ≠ '#' ∧ c ≠ '%') : HasNoStray (scheme.start ++ (login ++ '@' :: place)) := by
  have hstart : ∀ c ∈ scheme.start, c ≠ '?' ∧ c ≠ '#' ∧ c ≠ '%' :=
    List.all_iff_forall_prop.1 (by cases scheme <;> rfl)
  have hfront : ∀ c ∈ login ++ ['@'], c ≠ '?' ∧ c ≠ '#' ∧ c ≠ '%' :=
    List.forall_mem_append.2 ⟨hlogin, List.forall_mem_singleton.2 (by decide)⟩
  rw [hasNoStray_append_iff hstart] at h
  rwa [hasNoStray_append_iff hstart, List.append_cons, hasNoStray_append_iff hfront]

/-- An endpoint takes a login in front of its place. Its address is the same but for user name and password. -/
theorem Addresses.login {scheme : Scheme} {login place : String} {url : Web}
    (h : Addresses (String.ofList scheme.name ++ "://" ++ place) url)
    (hfirst : ∃ c ∈ place.toList.head?, c.isAlphanum = true ∨ c = '[') (hat : '@' ∉ place.toList)
    (hlogin : ∀ c ∈ login.toList, endsAuthority true c = false ∧ c ≠ '?' ∧ c ≠ '#' ∧ c ≠ '%') :
    url.user = [] ∧ url.password = [] ∧ Addresses (String.ofList scheme.name ++ "://" ++ login ++ "@" ++ place) { url with
      user := (splitUser (login.toList.filter (!isDropped ·))).1
      password := (splitUser (login.toList.filter (!isDropped ·))).2 } := by
  obtain ⟨first, hhead, hfirst⟩ := hfirst
  obtain ⟨behind, hplace⟩ : ∃ behind, place.toList = first :: behind := List.head?_eq_some_iff.1 hhead
  have htext : (String.ofList scheme.name ++ "://" ++ place).toList = scheme.start ++ first :: behind := by
    simp [Scheme.start, hplace]
  have htext' : (String.ofList scheme.name ++ "://" ++ login ++ "@" ++ place).toList =
      scheme.start ++ (login.toList ++ '@' :: first :: behind) := by
    simp [Scheme.start, hplace]
  obtain ⟨huser, hpassword, hparse⟩ := parse_login (isPlaced_of_begins hfirst) (hplace ▸ hat)
    (fun c hc => (hlogin c hc).1) (htext ▸ h.parse)
  refine ⟨huser, hpassword, ?_, ?_, ?_⟩
  · intro hempty
    rw [← String.toList_inj, htext'] at hempty
    simp [Scheme.start] at hempty
  · rw [htext']
    exact (htext ▸ h.escapes).login fun c hc => (hlogin c hc).2
  · rw [htext', hparse]

/-- A user name and a password in an endpoint reach nobody. If a request can be built for an endpoint whose place
begins with a letter, a digit or a bracket and holds no at sign, then also with any login and an at sign in front of
the place, as long as no mark of the login ends it and no percent sign is in it. It is the same request: nothing of
the login is in the address, and there is one header for authorization, with the token. -/
theorem build_login {r : Record} {d : Deployment} {q : Request} {scheme : Scheme} {login place : String}
    (hfirst : ∃ c ∈ place.toList.head?, c.isAlphanum = true ∨ c = '[') (hat : '@' ∉ place.toList)
    (hlogin : ∀ c ∈ login.toList, c ∉ ['/', '\\', '?', '#', '%'])
    (h : build r { d with endpoint := String.ofList scheme.name ++ "://" ++ place } = .ok q) :
    build r { d with endpoint := String.ofList scheme.name ++ "://" ++ login ++ "@" ++ place } = .ok q ∧
      q.url.user = [] ∧ q.url.password = [] ∧
      q.headers.filter (·.1 == "authorization") = [("authorization", "Splunk " ++ d.token)] := by
  obtain ⟨url, hurl, htoken, rfl⟩ := build_eq_ok_iff.1 h
  have hmarks : ∀ c ∈ login.toList, endsAuthority true c = false ∧ c ≠ '?' ∧ c ≠ '#' ∧ c ≠ '%' := fun c hc => by
    have hmarks := hlogin c hc
    simp only [List.mem_cons, List.not_mem_nil, or_false, not_or] at hmarks
    exact ⟨by simp [endsAuthority, hmarks], hmarks.2.2⟩
  have hpercent : '%' ∉ login.toList.filter (!isDropped ·) := fun hc =>
    hlogin _ (List.mem_filter.1 hc).1 (by simp)
  obtain ⟨huser, hpassword, hurl'⟩ := hurl.login hfirst hat hmarks
  have hbare := Web.withoutCredentials_of_nil huser hpassword
  refine ⟨build_eq_ok_iff.2 ⟨_, hurl', htoken, ?_⟩, by rw [hbare, huser], by rw [hbare, hpassword], rfl⟩
  rw [hbare, withoutCredentials_splitUser hpercent, Web.eq_of_nil huser hpassword]
  rfl

/-- A login with a tab, a colon, an at sign, a blank, a bracket and a letter beyond ASCII. -/
theorem build_login_colon :
    let d : Deployment := { endpoint := "https://collector:8088/x", token := "t" }
    ∃ q, build ⟨"select 1", "u", 0⟩ d = .ok q ∧
      build ⟨"select 1", "u", 0⟩ { d with endpoint := "https://us\ter:@p w[é@collector:8088/x" } = .ok q ∧
      q.address = "https://collector:8088/x" ∧
      q.headers.filter (·.1 == "authorization") = [("authorization", "Splunk t")] := by
  intro d
  have hbuild : ∃ q, build ⟨"select 1", "u", 0⟩ d = .ok q ∧ q.address = "https://collector:8088/x" := by
    decide +kernel
  obtain ⟨q, hq, haddress⟩ := hbuild
  obtain ⟨hq', -, -, hheader⟩ := @build_login _ d q .https "us\ter:@p w[é" "collector:8088/x" ⟨'c', rfl, .inl rfl⟩
    (by decide) (List.all_iff_forall_prop.1 (by decide)) hq
  exact ⟨q, hq, hq', haddress, hheader⟩

end Request

end QueryAudit
