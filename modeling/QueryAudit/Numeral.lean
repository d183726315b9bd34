/-!
# Numerals

Digits of the bases the formats use. Every function here is about ASCII digits only: no format that
this library reads or writes knows any others.
-/

namespace QueryAudit.Numeral

/-- The digit of a value below sixteen, in lower case. -/
def digitChar (n : Nat) : Char :=
  if n < 10 then Char.ofNat (0x30 + n) else Char.ofNat (0x57 + n)

/-- The value of a decimal digit. -/
def decimalDigit? (c : Char) : Option Nat :=
  if '0' ≤ c ∧ c ≤ '9' then some (c.toNat - 0x30) else none

/-- The value of a hexadecimal digit in either case. -/
def hexDigit? (c : Char) : Option Nat :=
  if '0' ≤ c ∧ c ≤ '9' then some (c.toNat - 0x30)
  else if 'a' ≤ c ∧ c ≤ 'f' then some (c.toNat - 0x57)
  else if 'A' ≤ c ∧ c ≤ 'F' then some (c.toNat - 0x37)
  else none

/-- The value of a digit in a base up to sixteen. -/
def digit? (base : Nat) (c : Char) : Option Nat :=
  (hexDigit? c).filter (· < base)

/-- The number that a sequence of digits writes, most significant first. -/
def ofDigits (base : Nat) (ds : List Nat) : Nat :=
  ds.foldl (fun n d => n * base + d) 0

/-- The number written by a nonempty run of digits in a base up to sixteen. -/
def ofChars? (base : Nat) (cs : List Char) : Option Nat :=
  if cs.isEmpty then none else (cs.mapM (digit? base)).map (ofDigits base)

/-- Lower-case hexadecimal without leading zeros. -/
def hex (n : Nat) : List Char := Nat.toDigits 16 n

/-- Lower-case hexadecimal, filled with zeros to a width. -/
def hexPadded (width n : Nat) : List Char :=
  List.replicate (width - (hex n).length) '0' ++ hex n

/-- Decimal text of a natural number. -/
def decimal (n : Nat) : List Char := Nat.toDigits 10 n

/-- Decimal text of an integer: a minus sign in front of a negative one. -/
def signedDecimal (n : Int) : List Char :=
  if n < 0 then '-' :: decimal n.natAbs else decimal n.natAbs

/-- A number that fits 64 bits with its sign. -/
def int64? (n : Int) : Option Int64 :=
  if Int64.minValue.toInt ≤ n ∧ n ≤ Int64.maxValue.toInt then some (Int64.ofInt n) else none

theorem int64?_toInt (t : Int64) : int64? t.toInt = some t := by
  rw [int64?, if_pos ⟨t.minValue_le_toInt, t.toInt_le⟩, Int64.ofInt_toInt]

/-- A number that fits 64 bits without a sign. -/
def uint64? (n : Nat) : Option UInt64 := if n < UInt64.size then some (UInt64.ofNat n) else none

theorem uint64?_toNat (n : UInt64) : uint64? n.toNat = some n := by
  rw [uint64?, if_pos n.toNat_lt_size, UInt64.ofNat_toNat]

end QueryAudit.Numeral
