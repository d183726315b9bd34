/-!
# Binary floating-point magnitudes

A finite, nonnegative number of 64-bit binary floating point is `significand * 2 ^ exponent`.
`ofRatio?` rounds a quotient of natural numbers to the nearest such number, a tie to the even
significand, in exact arithmetic; a quotient that rounds beyond the largest finite number has none.
Products and quotients are rounded once, from the exact result.
-/

namespace QueryAudit.Decimal

/-- A finite nonnegative binary64 number. -/
structure Binary64 where
  significand : Nat
  exponent : Int
deriving DecidableEq

namespace Binary64

/-- Exponent of the smallest positive number. -/
def leastExponent : Int := -1074

/-- Exponent of the largest finite number. -/
def greatestExponent : Int := 971

/-- Number of bits of a significand. -/
def precision : Nat := 53

/-- The number zero. -/
def zero : Binary64 := ⟨0, leastExponent⟩

/-- Whether a number is zero. -/
def isZero (x : Binary64) : Bool := x.significand == 0

/-- The quotient of two natural numbers, rounded to the nearest integer, a tie to the even one. -/
def roundQuotient (num den : Nat) : Nat :=
  let q := num / den
  let twice := 2 * (num % den)
  if twice < den then q else if den < twice then q + 1 else q + q % 2

/-- Numerator and denominator of a quotient times a power of `base`. -/
def timesPower (base : Nat) (e : Int) (num den : Nat) : Nat × Nat :=
  if 0 ≤ e then (num * Nat.pow base e.toNat, den) else (num, den * Nat.pow base (-e).toNat)

/-- The exponent at which `num / den` has a significand of full precision, unless that is below the
least exponent. -/
def exponentOf (num den : Nat) : Int :=
  let guess : Int := (num.log2 : Int) - (den.log2 : Int) - ((precision : Int) - 1)
  let (n, d) := timesPower 2 (-guess) num den
  max leastExponent (if n < d * Nat.pow 2 (precision - 1) then guess - 1 else guess)

/-- The number nearest to `num / den`, or `none` beyond the largest. -/
def ofRatio? (num den : Nat) : Option Binary64 :=
  if num == 0 then some zero
  else
    let e := exponentOf num den
    let (n, d) := timesPower 2 (-e) num den
    let m := roundQuotient n d
    let x : Binary64 :=
      if m = Nat.pow 2 precision then ⟨Nat.pow 2 (precision - 1), e + 1⟩ else ⟨m, e⟩
    if greatestExponent < x.exponent then none else some x

/-- Numerator and denominator of a number. -/
def ratio (x : Binary64) : Nat × Nat := timesPower 2 x.exponent x.significand 1

/-- The number nearest to a natural number. -/
def ofNat? (n : Nat) : Option Binary64 := ofRatio? n 1

/-- The rounded product. -/
def mul? (x y : Binary64) : Option Binary64 :=
  ofRatio? (x.ratio.1 * y.ratio.1) (x.ratio.2 * y.ratio.2)

/-- The rounded quotient by a positive number. -/
def div? (x y : Binary64) : Option Binary64 :=
  ofRatio? (x.ratio.1 * y.ratio.2) (x.ratio.2 * y.ratio.1)

/-- The number nearest to `digits * 10 ^ e`. Exponents far outside the range are settled before any
power is computed. -/
def ofDecimal? (digits : Nat) (e : Int) : Option Binary64 :=
  if digits == 0 then some zero
  else
    let size : Int := ((Nat.toDigits 10 digits).length : Int) + e
    if 310 < size then none
    else if size < -330 then some zero
    else
      let (n, d) := timesPower 10 e digits 1
      ofRatio? n d

end Binary64

end QueryAudit.Decimal
