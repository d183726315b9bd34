import QueryAudit.Decimal.Binary64
import QueryAudit.Numeral
/-!
# Shortest decimal text

A floating-point number is written with the fewest digits that read back as the same number, the
nearest of those. `Digits` is such a result, and a `Style` says which decimal exponents are written
out in positions and which behind an `e`.
-/

namespace QueryAudit.Decimal

/-- Decimal digits `d₁ d₂ … dₙ` of the number `d₁.d₂…dₙ * 10 ^ exponent`. -/
structure Digits where
  digits : List Char
  exponent : Int
deriving DecidableEq

/-- Which decimal exponents are written in positions. -/
inductive Style
  /-- All of them. -/
  | positional
  /-- Those in the interval; the others follow an `e`, with a sign and at least two digits. -/
  | positionalBetween (least greatest : Int)
deriving DecidableEq

namespace Digits

/-- The greatest `e` with `10 ^ e ≤ num / den`, for a positive quotient; `start` is above it. -/
def decimalExponent (num den : Nat) : (steps : Nat) → (start : Int) → Int
  | 0, e => e
  | steps + 1, e =>
    let (n, d) := Binary64.timesPower 10 (-e) num den
    if d ≤ n then e else decimalExponent num den steps (e - 1)

/-- The digits of `d * 10 ^ e`, without zeros at the end. -/
def ofNat (d : Nat) (e : Int) : Digits :=
  let ds := Numeral.decimal d
  ⟨(ds.reverse.dropWhile (· == '0')).reverse, e + ds.length - 1⟩

/-- The candidate with `n` digits that reads back as `x` and is nearest to it, if there is one.
`e` is the decimal exponent of `x`. -/
def candidate? (x : Binary64) (e : Int) (n : Nat) : Option Digits :=
  let unit : Int := e - (n : Int) + 1
  let (a, b) := Binary64.timesPower 10 (-unit) x.ratio.1 x.ratio.2
  let below := a / b
  let reads (d : Nat) : Bool := Binary64.ofDecimal? d unit == some x
  let nearer := if 2 * (a % b) < b ∨ (2 * (a % b) = b ∧ below % 2 = 0) then below else below + 1
  let other := if nearer = below then below + 1 else below
  if reads nearer then some (ofNat nearer unit)
  else if reads other then some (ofNat other unit)
  else none

/-- The fewest digits that read back, among one to seventeen. -/
def shortest (x : Binary64) : Digits :=
  if x.isZero then ⟨['0'], 0⟩
  else
    let e := decimalExponent x.ratio.1 x.ratio.2 640 309
    ((List.range 17).findSome? fun n => candidate? x e (n + 1)).getD ⟨['0'], 0⟩

/-- All digits in their positions, with at least one on either side of the point. -/
def inPositions (d : Digits) : List Char :=
  let n := d.digits.length
  if d.exponent < 0 then
    ['0', '.'] ++ List.replicate ((-d.exponent).toNat - 1) '0' ++ d.digits
  else
    let whole := d.exponent.toNat + 1
    if n ≤ whole then d.digits ++ List.replicate (whole - n) '0' ++ ['.', '0']
    else d.digits.take whole ++ '.' :: d.digits.drop whole

/-- One digit before the point, the others behind it, then the exponent. -/
def withExponent (d : Digits) : List Char :=
  let e := Numeral.decimal d.exponent.natAbs
  d.digits.take 1 ++ (if d.digits.length ≤ 1 then [] else '.' :: d.digits.drop 1)
    ++ ['e', if d.exponent < 0 then '-' else '+'] ++ List.replicate (2 - e.length) '0' ++ e

/-- The text of a number in a style. -/
def render (style : Style) (d : Digits) : List Char :=
  match style with
  | .positional => d.inPositions
  | .positionalBetween least greatest =>
    if least ≤ d.exponent ∧ d.exponent ≤ greatest then d.inPositions else d.withExponent

end Digits

/-- A floating-point number with its sign, or one of the values that are no numbers. -/
inductive Floating
  | finite (negative : Bool) (magnitude : Binary64)
  | infinite (negative : Bool)
  | nan
deriving DecidableEq

namespace Floating

/-- The shortest text in a style; a negative zero keeps its sign. -/
def render (style : Style) : Floating → List Char
  | finite negative x => (if negative then ['-'] else []) ++ (Digits.shortest x).render style
  | infinite negative => (if negative then ['-'] else []) ++ ['i', 'n', 'f']
  | nan => ['N', 'a', 'N']

end Floating

end QueryAudit.Decimal
