import QueryAudit.Numeral
import QueryAudit.Text.Cut
import QueryAudit.Url.Fault
/-!
# IPv4 addresses

A host whose last label is a number is an IPv4 address, or nothing. It has up to four numbers, each in
decimal, octal or hexadecimal; the last one fills all octets that are left. An address is held as one
number and written in four decimal parts.
-/

namespace QueryAudit.Url

/-- An IPv4 address as a number. -/
structure Ipv4 where
  value : Nat
deriving DecidableEq

namespace Ipv4

/-- The number that a label writes: hexadecimal behind `0x`, octal behind another `0`, else decimal. -/
def number? (label : List Char) : Option Nat :=
  let digits (base : Nat) (ds : List Char) : Option Nat :=
    if ds.isEmpty then some 0 else Numeral.ofChars? base ds
  match label with
  | [] => none
  | '0' :: 'x' :: ds => digits 16 ds
  | '0' :: 'X' :: ds => digits 16 ds
  | '0' :: d :: ds => digits 8 (d :: ds)
  | ds => digits 10 ds

/-- The labels of a host, without the empty one behind a final dot. -/
def labels (host : List Char) : List (List Char) :=
  let parts := Text.cutAt '.' host
  if parts.getLast? = some [] then parts.dropLast else parts

/-- A host that can only be an IPv4 address: its last label is a number, or looks like one. -/
def isNumeric (host : List Char) : Bool :=
  match (labels host).getLast? with
  | none => false
  | some last => (!last.isEmpty && last.all fun c => (Numeral.decimalDigit? c).isSome)
      || (number? last).isSome

/-- The address of up to four numbers: the last one fills the octets that the others leave. -/
def ofNumbers? (ns : List Nat) : Option Ipv4 :=
  match ns.getLast? with
  | none => none
  | some last =>
    let front := ns.dropLast
    if 4 < ns.length ∨ Nat.pow 256 (5 - ns.length) ≤ last ∨ front.any (255 < ·) then none
    else some ⟨front.zipIdx.foldl (fun a (n, i) => a + n * Nat.pow 256 (3 - i)) last⟩

/-- The address that a host writes. -/
def parse (host : List Char) : Except Fault Ipv4 :=
  match ((labels host).mapM number?).bind ofNumbers? with
  | some a => .ok a
  | none => .error .invalidIpv4

/-- The four octets. -/
def octets (a : Ipv4) : List Nat :=
  [a.value / 0x1000000 % 256, a.value / 0x10000 % 256, a.value / 256 % 256, a.value % 256]

/-- Four decimal parts with dots between them. -/
def render (a : Ipv4) : List Char := ['.'].intercalate (a.octets.map Numeral.decimal)

end Ipv4

end QueryAudit.Url
