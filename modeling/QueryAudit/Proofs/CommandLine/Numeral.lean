import QueryAudit.CommandLine.Flag
import QueryAudit.Proofs.Numeral
/-!
# Numbers on the command line

A number that is written in decimal is read as that number, at both ends of its range too:
`readSeconds?_secondsText` and `readTimestamp?_timestampText`.
-/

namespace QueryAudit

namespace CommandLine

open Numeral

/-- The text of a number of seconds. -/
def secondsText (n : UInt64) : String := String.ofList (decimal n.toNat)

/-- The text of a point in time. -/
def timestampText (t : Int64) : String := String.ofList (signedDecimal t.toInt)

theorem readSeconds?_secondsText (n : UInt64) : readSeconds? (secondsText n) = some n := by
  have hdigits : (readNat? (decimal n.toNat)).bind uint64? = some n := by
    rw [readNat?, ofChars?_decimal, Option.bind_some, uint64?_toNat]
  unfold readSeconds? secondsText
  rw [String.toList_ofList]
  split
  · next ds hds =>
    have hsign : '+' ∈ decimal n.toNat := by simp [hds]
    exact absurd (isDigit_of_mem_decimal hsign) (by decide)
  · exact hdigits

theorem readTimestamp?_timestampText (t : Int64) : readTimestamp? (timestampText t) = some t := by
  have hdigits (sign : Int) (h : sign * t.toInt.natAbs = t.toInt) :
      (readNat? (decimal t.toInt.natAbs)).bind (fun n => int64? (sign * n)) = some t := by
    rw [readNat?, ofChars?_decimal, Option.bind_some, h, int64?_toInt]
  unfold readTimestamp? timestampText signedDecimal
  rw [String.toList_ofList]
  by_cases hneg : t.toInt < 0
  · rw [if_pos hneg]
    exact hdigits (-1) (by omega)
  · rw [if_neg hneg]
    split
    · next ds hds =>
      have hsign : '+' ∈ decimal t.toInt.natAbs := by simp [hds]
      exact absurd (isDigit_of_mem_decimal hsign) (by decide)
    · next ds hds =>
      have hsign : '-' ∈ decimal t.toInt.natAbs := by simp [hds]
      exact absurd (isDigit_of_mem_decimal hsign) (by decide)
    · exact hdigits 1 (by omega)

end CommandLine

end QueryAudit
