import QueryAudit.Numeral
import QueryAudit.Url.Fault
/-!
# IPv6 addresses

Eight pieces of sixteen bits in hexadecimal, with colons between them. One run of zero pieces may be
left out for `::`, and the last two pieces may be written as an IPv4 address. The written form leaves
out the longest run of zero pieces, the first of several, if it has at least two.
-/

namespace QueryAudit.Url

/-- An IPv6 address as its eight pieces. -/
structure Ipv6 where
  pieces : List Nat
deriving DecidableEq

namespace Ipv6

/-- Number of pieces of an address. -/
def count : Nat := 8

/-- A decimal octet without a leading zero, and what follows it. -/
def octet? (cs : List Char) : Option (Nat × List Char) :=
  let ds := cs.takeWhile fun c => (Numeral.decimalDigit? c).isSome
  let leadingZero := ds.head? = some '0' ∧ 1 < ds.length
  match Numeral.ofChars? 10 ds with
  | some n => if leadingZero ∨ 255 < n then none else some (n, cs.drop ds.length)
  | none => none

/-- The two pieces of an IPv4 address at the end. -/
def embedded? (cs : List Char) : Option (List Nat) := do
  let dot (cs : List Char) : Option (List Char) :=
    match cs with
    | '.' :: rest => some rest
    | _ => none
  let (a, cs) ← octet? cs
  let (b, cs) ← octet? (← dot cs)
  let (c, cs) ← octet? (← dot cs)
  let (d, cs) ← octet? (← dot cs)
  if cs.isEmpty then some [a * 256 + b, c * 256 + d] else none

/-- The address of the pieces read so far, last first, where `gap` pieces come before the `::`. -/
def close? (gap : Option Nat) (read : List Nat) : Option Ipv6 :=
  let pieces := read.reverse
  match gap with
  | none => if pieces.length = count then some ⟨pieces⟩ else none
  | some before =>
    some ⟨pieces.take before ++ List.replicate (count - pieces.length) 0 ++ pieces.drop before⟩

/-- The address whose remaining pieces are `cs`. `read` holds the pieces so far, last first; `room` is
how many more positions there are, the `::` itself taking one. -/
def pieces? : (room : Nat) → (gap : Option Nat) → (read : List Nat) → List Char → Option Ipv6
  | _, gap, read, [] => close? gap read
  | 0, _, _, _ :: _ => none
  | room + 1, gap, read, c :: cs =>
    if c = ':' then if gap.isSome then none else pieces? room (some read.length) read cs
    else
      let ds := ((c :: cs).take 4).takeWhile fun d => (Numeral.hexDigit? d).isSome
      match (c :: cs).drop ds.length with
      | [] => pieces? room gap ((Numeral.ofChars? 16 ds).getD 0 :: read) []
      | '.' :: _ =>
        if ds.isEmpty ∨ room = 0 then none
        else (embedded? (c :: cs)).bind fun last => close? gap (last.reverse ++ read)
      | ':' :: after =>
        if after.isEmpty then none
        else pieces? room gap ((Numeral.ofChars? 16 ds).getD 0 :: read) after
      | _ => none

/-- The address that stands between the brackets. -/
def parse (cs : List Char) : Except Fault Ipv6 :=
  let address :=
    if cs.length < 2 then none
    else
      match cs with
      | ':' :: ':' :: rest => pieces? (count - 1) (some 0) [] rest
      | ':' :: _ => none
      | cs => pieces? count none [] cs
  match address with
  | some a => .ok a
  | none => .error .invalidIpv6

/-- Start and length of the longest run of zero pieces, the first of several. -/
def zeroRun (pieces : List Nat) : Nat × Nat :=
  let runs := (List.range pieces.length).map fun i => (i, ((pieces.drop i).takeWhile (· == 0)).length)
  runs.foldl (fun best run => if best.2 < run.2 then run else best) (0, 0)

/-- The pieces with colons between them, and `::` in place of the longest run of zeros. -/
def render (a : Ipv6) : List Char :=
  let write (ps : List Nat) : List Char := [':'].intercalate (ps.map Numeral.hex)
  let (start, length) := zeroRun a.pieces
  if length < 2 then write a.pieces
  else write (a.pieces.take start) ++ [':', ':'] ++ write (a.pieces.drop (start + length))

end Ipv6

end QueryAudit.Url
