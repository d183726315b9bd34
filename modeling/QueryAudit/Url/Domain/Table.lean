import QueryAudit.Numeral
/-!
# Tables of characters

A table about characters is a text of hexadecimal numbers with blanks between them. What the numbers of
a row are is said where the table is; most rows are the first and the last number of a range.
-/

namespace QueryAudit.Url.Domain.Table

/-- One more character of a table: a digit continues the number at hand, anything else ends it. The
numbers that are read come last first. -/
def next (s : List Nat × Option Nat) (c : Char) : List Nat × Option Nat :=
  match Numeral.hexDigit? c with
  | some d => (s.1, some (s.2.getD 0 * 16 + d))
  | none => (s.2.toList ++ s.1, none)

/-- The numbers of a table. -/
def numbers (text : String) : List Nat :=
  let s := text.toList.foldl next ([], none)
  (s.2.toList ++ s.1).reverse

/-- Rows of two numbers. -/
def pairs : List Nat → List (Nat × Nat)
  | a :: b :: rest => (a, b) :: pairs rest
  | _ => []

/-- Rows of three numbers. -/
def triples : List Nat → List (Nat × Nat × Nat)
  | a :: b :: c :: rest => (a, b, c) :: triples rest
  | _ => []

/-- Rows of a number, the length of what follows, and that many more numbers. -/
def rows : List Nat → List (Nat × List Nat)
  | a :: count :: rest => (a, rest.take count) :: rows (rest.drop count)
  | _ => []
termination_by ns => ns.length
decreasing_by simp; omega

/-- The ranges of a table whose rows are ranges. -/
def ranges (text : String) : List (Nat × Nat) := pairs (numbers text)

/-- A number that lies in one of the ranges. -/
def holds (rs : List (Nat × Nat)) (n : Nat) : Bool :=
  rs.any fun r => decide (r.1 ≤ n) && decide (n ≤ r.2)

end QueryAudit.Url.Domain.Table
