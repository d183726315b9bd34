import QueryAudit.Proofs.Request.Escapes
import QueryAudit.Proofs.Url.Settled
/-!
# The address of a request as an endpoint

`build_address`: the address that a request is sent to is in normal form. As an endpoint it leads to the same request.
-/

namespace QueryAudit.Request

open Url

/-- What a settled address is written as is an endpoint with this address. -/
theorem addresses_render {u : Web} (hsettled : u.Settled) (hescaped : u.IsEscaped) :
    Addresses (String.ofList u.render) u where
  ne_empty hempty := by
    rw [← String.toList_inj, String.toList_ofList, Web.render_eq] at hempty
    simp [Scheme.start] at hempty
  escapes := by
    obtain ⟨page, hpage, hrender⟩ := hescaped.render
    rw [String.toList_ofList, hrender]
    exact hasNoStray_of_parts _ _ hpage hescaped.query hescaped.fragment
  parse := by
    rw [String.toList_ofList]
    exact Web.parse_render hsettled

/-- A request is built again from its own address, if that is taken for the endpoint. All that is rewritten in an
endpoint is settled by then: a port that goes without saying, the forms of an IP address, segments of dots, what has to
be encoded, and user name and password. Only a host with a label that stands for another one would be read anew. -/
theorem build_address {r : Record} {d : Deployment} {q : Request} (h : build r d = .ok q)
    (hsign : ∀ label ∈ Text.cutAt '.' q.url.host.render, ¬['x', 'n', '-', '-'] <+: label) :
    build r { d with endpoint := q.address } = .ok q := by
  obtain ⟨url, hurl, htoken, rfl⟩ := build_eq_ok_iff.1 h
  have hhost : url.withoutCredentials.host = url.host := by
    rcases url.withoutCredentials_cases with hsame | hbare
    · rw [hsame]
    · rw [hbare]
  have hsettled := Web.settled_of_parse hurl.parse fun label hlabel => hsign label (hhost ▸ hlabel)
  have hescaped := isEscaped_of_parse hurl.escapes hurl.parse
  refine build_eq_ok_iff.2 ⟨_, addresses_render hsettled.withoutCredentials hescaped.withoutCredentials, htoken, ?_⟩
  rw [Web.withoutCredentials_withoutCredentials]
  rfl

/-- An endpoint with a login that cannot be understood, most of which is rewritten. -/
theorem build_address_rewritten :
    let d : Deployment := { endpoint := "HTTP:\\%ff:é@[0:0::5.6.7.8]:80/a/%2E%2e/b c?#\n" }
    let d' : Deployment := { d with endpoint := "http://%ff:%C3%A9@[::506:708]/b%20c?#" }
    ∃ q, build ⟨"select 1", "u", 0⟩ d = .ok q ∧ build ⟨"select 1", "u", 0⟩ d' = .ok q := by
  intro d d'
  have hbuild : ∃ q, build ⟨"select 1", "u", 0⟩ d = .ok q ∧ q.address = d'.endpoint ∧
      q.url.host.render = "[::506:708]".toList := by decide +kernel
  obtain ⟨q, hq, haddress, hhost⟩ := hbuild
  have hagain := build_address hq (by rw [hhost]; decide)
  rw [haddress] at hagain
  exact ⟨q, hq, hagain⟩

end QueryAudit.Request
