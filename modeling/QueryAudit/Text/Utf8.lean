/-!
# UTF-8

Texts travel as octets. `encode` writes a text, `next?` takes one character off the front of a
sequence of octets and `decode?` reads a whole text back; an ill-formed sequence is refused. Only
`mend`, which is for display, puts a mark in its place. A place in a text that is counted in octets
may be inside a character; `dropOctets?` refuses to cut there. `next?_length` says that every character takes
at least one octet, which is what ends the loops over octets elsewhere.
-/

namespace QueryAudit

/-- Octets as they come from a file, an environment variable or the network. -/
abbrev Bytes := List UInt8

namespace Utf8

/-- The octets of one character. -/
def encodeChar (c : Char) : Bytes := String.utf8EncodeChar c

/-- The octets of a text. -/
def encode (s : List Char) : Bytes := s.flatMap encodeChar

/-- What stands behind so many octets of a text. Nothing does inside a character, or beyond the end. -/
def dropOctets? : Nat → List Char → Option (List Char)
  | 0, s => some s
  | _ + 1, [] => none
  | n + 1, c :: s =>
    if (encodeChar c).length ≤ n + 1 then dropOctets? (n + 1 - (encodeChar c).length) s else none

/-- The six payload bits of a continuation octet. -/
def continuation? (b : UInt8) : Option Nat :=
  if 0x80 ≤ b ∧ b ≤ 0xBF then some (b.toNat - 0x80) else none

/-- The character of a number that lies in `lo … hi` and is no surrogate. -/
def scalar? (lo hi n : Nat) : Option Char :=
  if lo ≤ n ∧ n ≤ hi ∧ n.isValidChar then some (Char.ofNat n) else none

/-- The first character and what follows it; `none` at the end and on an ill-formed sequence.
A number is read only in its shortest form. -/
def next? : Bytes → Option (Char × Bytes)
  | [] => none
  | b :: rest =>
    if b < 0x80 then some (Char.ofNat b.toNat, rest)
    else if b < 0xC2 then none
    else if b < 0xE0 then
      match rest with
      | x :: rest => do
        let x ← continuation? x
        let c ← scalar? 0x80 0x7FF ((b.toNat - 0xC0) * 64 + x)
        return (c, rest)
      | _ => none
    else if b < 0xF0 then
      match rest with
      | x :: y :: rest => do
        let x ← continuation? x
        let y ← continuation? y
        let c ← scalar? 0x800 0xFFFF (((b.toNat - 0xE0) * 64 + x) * 64 + y)
        return (c, rest)
      | _ => none
    else if b < 0xF5 then
      match rest with
      | x :: y :: z :: rest => do
        let x ← continuation? x
        let y ← continuation? y
        let z ← continuation? z
        let c ← scalar? 0x10000 0x10FFFF ((((b.toNat - 0xF0) * 64 + x) * 64 + y) * 64 + z)
        return (c, rest)
      | _ => none
    else none

theorem next?_length {bs rest : Bytes} {c : Char} (h : next? bs = some (c, rest)) :
    rest.length < bs.length := by
  unfold next? at h
  split at h
  · simp at h
  · (repeat' split at h) <;> simp only [Option.bind_eq_bind, Option.bind_eq_some_iff,
      Option.some.injEq, Prod.mk.injEq, reduceCtorEq, Option.pure_def] at h <;> grind

/-- The text of a sequence of octets, if it is well formed. -/
def decode? (bs : Bytes) : Option (List Char) :=
  if bs.isEmpty then some []
  else
    match _h : next? bs with
    | none => none
    | some (c, rest) => (decode? rest).map (c :: ·)
termination_by bs.length
decreasing_by exact next?_length _h

/-! ## Display -/

/-- Whether some character starts with these octets and has one or two more. -/
def isFront (bs : Bytes) : Bool := (next? (bs ++ [0x80])).isSome || (next? (bs ++ [0x80, 0x80])).isSome

/-- How many octets get one mark where a sequence is ill formed: the longest front of a character that
stands there, or else one octet. -/
def marked (bs : Bytes) : Nat :=
  if isFront (bs.take 3) then 3 else if isFront (bs.take 2) then 2 else 1

theorem marked_pos (bs : Bytes) : 0 < marked bs := by
  unfold marked
  split
  · decide
  · split <;> decide

/-- The text of a sequence of octets, with marks where it is ill formed. -/
def mend (bs : Bytes) : List Char :=
  if _hbs : bs.isEmpty then []
  else
    match _h : next? bs with
    | some (c, rest) => c :: mend rest
    | none => Char.ofNat 0xFFFD :: mend (bs.drop (marked bs))
termination_by bs.length
decreasing_by
  · exact next?_length _h
  · have hlength : bs.length ≠ 0 := fun h => _hbs (List.isEmpty_iff.2 (List.length_eq_zero_iff.1 h))
    have hmarked := marked_pos bs
    rw [List.length_drop]
    omega

end Utf8

/-- The octets of a string. -/
def octets (s : String) : Bytes := Utf8.encode s.toList

/-- The string of a sequence of octets, if it is well-formed UTF-8. -/
def ofOctets? (bs : Bytes) : Option String := (Utf8.decode? bs).map String.ofList

/-- The string that octets are shown as. -/
def shown (bs : Bytes) : String := String.ofList (Utf8.mend bs)

end QueryAudit
