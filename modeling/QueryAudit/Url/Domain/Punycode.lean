import QueryAudit.Text.Cut
/-!
# Labels in ASCII

A label with other characters than ASCII is written in ASCII alone: its ASCII characters first, a hyphen,
and then where the others stand. For those all places of the label are counted, once for every code
point that is passed, and each number says how many are skipped before the next character. A number has
base 36, its smallest digit first; a digit below a threshold is the last one, and the thresholds adapt
to the size of the numbers so far.
-/

namespace QueryAudit.Url.Domain.Punycode

/-- The digits are the letters and then the decimal digits. -/
def digitChar (n : Nat) : Char :=
  if n < 26 then Char.ofNat (0x61 + n) else Char.ofNat (0x30 + n - 26)

/-- The value of a digit in either case. -/
def digit? (c : Char) : Option Nat :=
  if 'a' ≤ c ∧ c ≤ 'z' then some (c.toNat - 0x61)
  else if 'A' ≤ c ∧ c ≤ 'Z' then some (c.toNat - 0x41)
  else if '0' ≤ c ∧ c ≤ '9' then some (c.toNat - 0x30 + 26)
  else none

/-- A digit below this is the last one of its number. `place` is 36 for the first digit and 36 more for
each digit after it. -/
def threshold (bias place : Nat) : Nat := min 26 (max 1 (place - bias))

theorem threshold_pos (bias place : Nat) : 1 ≤ threshold bias place := by
  unfold threshold; omega

/-- How often a number above 455 is divided by 35, with what is left of it. -/
def shrink (n : Nat) : Nat × Nat :=
  if 455 < n then
    let (times, rest) := shrink (n / 35)
    (times + 1, rest)
  else (0, n)
termination_by n
decreasing_by omega

/-- The bias after a number, given how many characters the label has with the new one. The first number
of a label says little about the next ones and counts for less. -/
def adapt (isFirst : Bool) (n characters : Nat) : Nat :=
  let n := if isFirst then n / 700 else n / 2
  let (times, rest) := shrink (n + n / characters)
  36 * times + 36 * rest / (rest + 38)

/-- What is known between two numbers. -/
structure State where
  bias : Nat := 72
  isFirst : Bool := true

/-- The state behind a number. -/
def State.after (n characters : Nat) (s : State) : State := ⟨adapt s.isFirst n characters, false⟩

/-! ## Writing -/

/-- The digits of a number from a place on. -/
def writeNumber (bias place n : Nat) : List Char :=
  let t := threshold bias place
  if n < t then [digitChar n]
  else digitChar (t + (n - t) % (36 - t)) :: writeNumber bias (place + 36) ((n - t) / (36 - t))
termination_by n
decreasing_by
  have h := threshold_pos bias place
  exact Nat.lt_of_le_of_lt (Nat.div_le_self _ _) (by omega)

/-- A label while it is written: the places passed since the last number, how many characters have been
written, and the text so far. -/
structure Writer where
  state : State
  passed : Nat
  characters : Nat
  text : List Char

/-- One character of the label while the occurrences of `next` are written: a smaller one has been
written already and is passed, `next` itself is written. -/
def Writer.see (next : Char) (w : Writer) (c : Char) : Writer :=
  if c < next then { w with passed := w.passed + 1 }
  else if c = next then
    { state := w.state.after w.passed (w.characters + 1)
      passed := 0
      characters := w.characters + 1
      text := w.text ++ writeNumber w.state.bias 36 w.passed }
  else w

/-- The characters outside ASCII, smallest first and each once. -/
def extended (label : List Char) : List Char :=
  ((label.filter fun c => decide (0x80 ≤ c.toNat)).mergeSort fun a b => decide (a ≤ b)).eraseDups

/-- Writes all occurrences of each character in turn. `start` is the code point after the last one that
was written. -/
def Writer.writeAll (label : List Char) (w : Writer) (start : Nat) : List Char → Writer
  | [] => w
  | next :: rest =>
    let skipped := { w with passed := w.passed + (next.toNat - start) * (w.characters + 1) }
    let written := label.foldl (see next) skipped
    writeAll label { written with passed := written.passed + 1 } (next.toNat + 1) rest

/-- The characters of ASCII. -/
def basic (label : List Char) : List Char := label.filter fun c => decide (c.toNat < 0x80)

/-- A label in ASCII, without the sign that it is written so. -/
def encode (label : List Char) : List Char :=
  let front := basic label
  let writer := Writer.writeAll label ⟨{}, 0, front.length, []⟩ 0x80 (extended label)
  front ++ (if front.isEmpty then [] else ['-']) ++ writer.text

/-! ## Reading -/

/-- Reads a number from a place on: its digits from here count `weight` times their value. -/
def readNumber? (bias place weight : Nat) : List Char → Option (Nat × List Char)
  | [] => none
  | c :: rest =>
    match digit? c with
    | none => none
    | some d =>
      let t := threshold bias place
      if d < t then some (d * weight, rest)
      else (readNumber? bias (place + 36) (weight * (36 - t)) rest).map fun r => (d * weight + r.1, r.2)

/-- A number has at least one digit. -/
theorem readNumber?_length {bias place weight n : Nat} {s rest : List Char}
    (h : readNumber? bias place weight s = some (n, rest)) : rest.length < s.length := by
  induction s generalizing place weight n rest with
  | nil => simp [readNumber?] at h
  | cons c s ih =>
    rw [readNumber?] at h
    split at h
    · simp at h
    · next d _ =>
      simp only at h
      split at h
      · simp only [Option.some.injEq, Prod.mk.injEq] at h
        simp [h.2]
      · obtain ⟨r, hr, he⟩ := Option.map_eq_some_iff.1 h
        simp only [Prod.mk.injEq] at he
        have := ih hr
        simp only [← he.2, List.length_cons]
        omega

/-- The number of a character that a label may hold. -/
def character? (n : Nat) : Option Char := if n.isValidChar then some (Char.ofNat n) else none

/-- Puts the characters that the numbers stand for into a label. `code` is the code point at hand and
`place` the place where counting goes on. -/
def insertAll? (state : State) (code place : Nat) (label s : List Char) : Option (List Char) :=
  match s with
  | [] => some label
  | c :: rest =>
    match _h : readNumber? state.bias 36 1 (c :: rest) with
    | none => none
    | some (n, rest') =>
      let size := label.length + 1
      let code := code + (place + n) / size
      let place := (place + n) % size
      match character? code with
      | none => none
      | some x => insertAll? (state.after n size) code (place + 1) (label.insertIdx place x) rest'
termination_by s.length
decreasing_by exact readNumber?_length _h

/-- The ASCII characters of a written label and what follows the last hyphen. A hyphen that nothing
precedes does not end anything. -/
def cutBasic (s : List Char) : List Char × List Char :=
  let parts := Text.cutAt '-' s
  let front := ['-'].intercalate parts.dropLast
  if front.isEmpty then ([], s) else (front, parts.getLastD [])

/-- The label that a text without the sign stands for. -/
def decode? (s : List Char) : Option (List Char) :=
  let (front, numbers) := cutBasic s
  if front.all fun c => decide (c.toNat < 0x80) then insertAll? {} 0x80 0 front numbers else none

end QueryAudit.Url.Domain.Punycode
