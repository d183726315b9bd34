import QueryAudit.Proofs.Cut
import QueryAudit.Proofs.Numeral
import QueryAudit.Url.Ipv4
/-!
# IPv4 addresses that are read back

`Ipv4.parse_render`: an address that fits 32 bits is read from the four decimal parts that it is written in, and every
address that is read does fit: `Ipv4.fits_of_parse`.
-/

namespace QueryAudit.Url.Ipv4

/-- An address of no more than 32 bits. -/
def Fits (a : Ipv4) : Prop := a.value < 2 ^ 32

/-- Octets in front of a number add up to no more than the next octet in front of them would count for. -/
theorem foldl_octets_le (front : List Nat) (hfront : ∀ n ∈ front, n ≤ 255) (i last : Nat)
    (hlength : i + front.length ≤ 4) :
    (front.zipIdx i).foldl (fun a octet => a + octet.1 * 256 ^ (3 - octet.2)) last + 256 ^ (4 - i - front.length) ≤
      last + 256 ^ (4 - i) := by
  induction front generalizing i last with
  | nil => exact Nat.le_refl _
  | cons n front ih =>
    obtain ⟨hn, hfront⟩ := List.forall_mem_cons.1 hfront
    rw [List.length_cons] at hlength
    -- The rest adds up to less than one more of this octet, and this octet is at most 255.
    have hrest := ih hfront (i + 1) (last + n * 256 ^ (3 - i)) (by omega)
    have hshift : 4 - (i + 1) = 3 - i ∧ 4 - i - (n :: front).length = 3 - i - front.length ∧ 4 - i = 3 - i + 1 := by
      rw [List.length_cons]
      omega
    rw [hshift.1] at hrest
    rw [List.zipIdx_cons, List.foldl_cons, hshift.2.1, hshift.2.2, Nat.pow_succ]
    have hoctet : n * 256 ^ (3 - i) ≤ 255 * 256 ^ (3 - i) := Nat.mul_le_mul_right _ hn
    dsimp only
    omega

theorem fits_of_ofNumbers? {ns : List Nat} {a : Ipv4} (h : ofNumbers? ns = some a) : a.Fits := by
  unfold ofNumbers? at h
  split at h
  · cases h
  next last hlast =>
  dsimp only at h
  split at h
  · cases h
  next hnone =>
  simp only [not_or, Nat.not_lt, Nat.not_le, Nat.pow_eq] at hnone h
  obtain ⟨hlength, hlt, hfront⟩ := hnone
  cases h
  have hne : ns.length = ns.dropLast.length + 1 := by
    rw [List.length_dropLast, Nat.sub_add_cancel]
    exact List.length_pos_of_mem (List.mem_of_getLast? hlast)
  have hsum := foldl_octets_le ns.dropLast (by simpa using hfront) 0 last (by omega)
  have hsame : 4 - 0 - ns.dropLast.length = 5 - ns.length := by omega
  rw [hsame] at hsum
  rw [Fits, show 2 ^ 32 = 256 ^ (4 - 0) by decide]
  dsimp only
  omega

theorem fits_of_parse {host : List Char} {a : Ipv4} (h : parse host = .ok a) : a.Fits := by
  unfold parse at h
  split at h
  · next ha =>
    cases h
    obtain ⟨ns, -, hns⟩ := Option.bind_eq_some_iff.1 ha
    exact fits_of_ofNumbers? hns
  · cases h

/-! ## The written form -/

theorem number?_decimal : ∀ n < 256, number? (Numeral.decimal n) = some n := by decide +kernel

theorem ofNumbers?_octets {a : Ipv4} (h : a.Fits) : ofNumbers? a.octets = some a := by
  obtain ⟨n⟩ := a
  change n < 2 ^ 32 at h
  have hthird : n / 0x10000 = n / 0x100 / 0x100 := by omega
  have hlast : n / 0x1000000 = n / 0x100 / 0x100 / 0x100 := by omega
  simp only [ofNumbers?, octets]
  simp
  omega

theorem octets_lt (a : Ipv4) : ∀ n ∈ a.octets, n < 256 := by
  simp [octets, Nat.mod_lt]

/-- The parts between the dots. -/
theorem cutAt_render (a : Ipv4) : Text.cutAt '.' a.render = a.octets.map Numeral.decimal := by
  refine Text.cutAt_intercalate_of_not_mem (by simp [octets]) fun part hpart hdot => ?_
  obtain ⟨n, -, rfl⟩ := List.mem_map.1 hpart
  exact absurd (Numeral.isDigit_of_mem_decimal hdot) (by decide)

theorem render_ne_nil (a : Ipv4) : a.render ≠ [] := by
  intro hnil
  have hparts := a.cutAt_render
  rw [hnil] at hparts
  exact absurd (congrArg List.length hparts) (by simp [Text.cutAt, octets])

theorem labels_render (a : Ipv4) : labels a.render = a.octets.map Numeral.decimal := by
  have hlast : (a.octets.map Numeral.decimal).getLast? ≠ some [] := by
    intro h
    exact Nat.toDigits_ne_nil (Option.some.inj h)
  rw [labels, cutAt_render]
  exact if_neg hlast

theorem parse_render {a : Ipv4} (h : a.Fits) : parse a.render = .ok a := by
  have hnumbers : (a.octets.map Numeral.decimal).mapM number? = some a.octets := by
    rw [mapM_eq_some_iff, List.map_map]
    exact List.map_congr_left fun n hn => number?_decimal n (a.octets_lt n hn)
  rw [parse, labels_render, hnumbers, Option.bind_some, ofNumbers?_octets h]

theorem isNumeric_render (a : Ipv4) : isNumeric a.render = true := by
  have hlast : (labels a.render).getLast? = some (Numeral.decimal (a.value % 256)) := by
    rw [labels_render]
    rfl
  have hnumber := number?_decimal (a.value % 256) (Nat.mod_lt _ (by decide))
  simp [isNumeric, hlast, hnumber]

/-- Nothing but digits and dots is written. -/
theorem isDigit_of_mem_render {a : Ipv4} : ∀ c ∈ a.render, c.isDigit = true ∨ c = '.' := by
  refine Text.forall_mem_intercalate (by simp) fun part hpart c hc => .inl ?_
  obtain ⟨n, -, rfl⟩ := List.mem_map.1 hpart
  exact Numeral.isDigit_of_mem_decimal hc

end QueryAudit.Url.Ipv4
