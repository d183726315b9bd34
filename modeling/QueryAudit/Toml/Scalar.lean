import QueryAudit.Toml.Node
/-!
# Scalars in TOML

Readers for texts, numbers and points in time. Each takes the characters from where it starts and gives
its result with what follows, or nothing. What is not allowed after a value is found by whoever reads
on: `01` is read as zero with a `1` left over.
-/

namespace QueryAudit.Toml

/-! ## Classes of characters -/

/-- A space or tab. -/
def isBlank (c : Char) : Bool := c == ' ' || c == '\t'

/-- What follows the blanks. -/
def dropBlanks (s : List Char) : List Char := s.dropWhile isBlank

/-- A character that can stand in a comment: everything but control characters, except the tab. -/
def isVisible (c : Char) : Bool := c == '\t' || (decide (0x20 ≤ c.toNat) && c.toNat != 0x7F)

/-- What follows a line break of either kind. -/
def newline? : List Char → Option (List Char)
  | '\n' :: rest => some rest
  | '\r' :: '\n' :: rest => some rest
  | _ => none

/-- What follows blanks and line breaks. -/
def dropLines : List Char → List Char
  | '\n' :: rest => dropLines rest
  | '\r' :: '\n' :: rest => dropLines rest
  | ' ' :: rest => dropLines rest
  | '\t' :: rest => dropLines rest
  | rest => rest

/-! ## Texts -/

/-- The character of an escape, from behind its backslash. -/
def escape? : List Char → Option (Char × List Char)
  | 'b' :: rest => some ('\x08', rest)
  | 't' :: rest => some ('\t', rest)
  | 'n' :: rest => some ('\n', rest)
  | 'f' :: rest => some ('\x0C', rest)
  | 'r' :: rest => some ('\r', rest)
  | '"' :: rest => some ('"', rest)
  | '\\' :: rest => some ('\\', rest)
  | 'u' :: rest => numbered 4 rest
  | 'U' :: rest => numbered 8 rest
  | _ => none
where
  /-- The character whose number has so many hexadecimal digits. -/
  numbered (width : Nat) (s : List Char) : Option (Char × List Char) :=
    if s.length < width then none
    else (Numeral.ofChars? 16 (s.take width)).bind fun n =>
      if n.isValidChar then some (Char.ofNat n, s.drop width) else none

theorem escape?_length {s rest : List Char} {c : Char} (h : escape? s = some (c, rest)) :
    rest.length < s.length := by
  have numbered {width : Nat} {s rest : List Char} {c : Char}
      (h : escape?.numbered width s = some (c, rest)) : rest.length ≤ s.length := by
    unfold escape?.numbered at h
    split at h
    · simp at h
    · obtain ⟨n, _, hn⟩ := Option.bind_eq_some_iff.1 h
      split at hn
      · simp only [Option.some.injEq, Prod.mk.injEq] at hn
        rw [← hn.2, List.length_drop]
        omega
      · simp at hn
  unfold escape? at h
  split at h <;> grind

/-- A text up to its closing quotation mark, on one line, with escapes. -/
def basic? (s : List Char) : Option (List Char × List Char) :=
  match s with
  | [] => none
  | c :: tail =>
    if c = '"' then some ([], tail)
    else if c = '\\' then
      match _h : escape? tail with
      | none => none
      | some (x, rest) => (basic? rest).map fun (xs, rest) => (x :: xs, rest)
    else if isVisible c then (basic? tail).map fun (xs, rest) => (c :: xs, rest)
    else none
termination_by s.length
decreasing_by
  · have := escape?_length _h
    grind
  · simp

/-- A text up to its closing apostrophe, on one line, as it stands. -/
def literal? : List Char → Option (List Char × List Char)
  | [] => none
  | '\x27' :: rest => some ([], rest)
  | c :: rest => if isVisible c then (literal? rest).map fun (xs, rest) => (c :: xs, rest) else none

/-- Three quotation marks end a text of many lines; up to two more before them belong to it. -/
def closing? (mark : Char) (s : List Char) : Option (List Char × List Char) :=
  let marks := (s.takeWhile (· == mark)).length
  if marks < 3 then none
  else
    let inside := min (marks - 3) 2
    some (List.replicate inside mark, s.drop (3 + inside))

/-- What follows a backslash at the end of a line: blanks and line breaks are passed over. -/
def continued? (s : List Char) : Option (List Char) :=
  (newline? (dropBlanks s)).map dropLines

theorem newline?_length {s rest : List Char} (h : newline? s = some rest) :
    rest.length < s.length := by
  unfold newline? at h
  split at h <;> grind

theorem dropLines_length (s : List Char) : (dropLines s).length ≤ s.length := by
  fun_induction dropLines s <;> grind

theorem continued?_length {s rest : List Char} (h : continued? s = some rest) :
    rest.length < s.length := by
  obtain ⟨r, hr, rfl⟩ := Option.map_eq_some_iff.1 h
  have h1 := newline?_length hr
  have h2 := dropLines_length r
  have h3 : (dropBlanks s).length ≤ s.length := (List.dropWhile_sublist _).length_le
  omega

/-- A text of many lines up to its closing quotation marks, with escapes. -/
def longBasic? (s : List Char) : Option (List Char × List Char) :=
  match closing? '"' s with
  | some done => some done
  | none =>
    match s with
    | [] => none
    | c :: tail =>
      if c = '\\' then
        match _h : continued? tail with
        | some rest => longBasic? rest
        | none =>
          match _h' : escape? tail with
          | none => none
          | some (x, rest) => (longBasic? rest).map fun (xs, rest) => (x :: xs, rest)
      else
        match _h : newline? (c :: tail) with
        | some rest => (longBasic? rest).map fun (xs, rest) => ('\n' :: xs, rest)
        | none =>
          if isVisible c then (longBasic? tail).map fun (xs, rest) => (c :: xs, rest) else none
termination_by s.length
decreasing_by
  · have := continued?_length _h
    grind
  · have := escape?_length _h'
    grind
  · exact newline?_length _h
  · simp

/-- A text of many lines up to its closing apostrophes, as it stands. -/
def longLiteral? (s : List Char) : Option (List Char × List Char) :=
  match closing? '\x27' s with
  | some done => some done
  | none =>
    match s with
    | [] => none
    | c :: tail =>
      match _h : newline? (c :: tail) with
      | some rest => (longLiteral? rest).map fun (xs, rest) => ('\n' :: xs, rest)
      | none =>
        if isVisible c then (longLiteral? tail).map fun (xs, rest) => (c :: xs, rest) else none
termination_by s.length
decreasing_by
  · exact newline?_length _h
  · simp

/-- A text of any of the four kinds. The line break behind an opening of many lines is no part of it. -/
def text? (s : List Char) : Option (List Char × List Char) :=
  match s with
  | '"' :: '"' :: '"' :: rest => longBasic? ((newline? rest).getD rest)
  | '\x27' :: '\x27' :: '\x27' :: rest => longLiteral? ((newline? rest).getD rest)
  | '"' :: rest => basic? rest
  | '\x27' :: rest => literal? rest
  | _ => none

/-! ## Numbers -/

/-- Digits of a base with single underscores between them, and what follows. -/
def digits? (base : Nat) (s : List Char) : Option (List Char × List Char) :=
  let isDigit (c : Char) : Bool := (Numeral.digit? base c).isSome
  let run := s.takeWhile fun c => isDigit c || c == '_'
  let doubled := (run.zip (run.drop 1)).any fun (a, b) => a == '_' && b == '_'
  if run.isEmpty ∨ run.head? = some '_' ∨ run.getLast? = some '_' ∨ doubled then none
  else some (run.filter isDigit, s.drop run.length)

/-- A sign in front of a number: whether it is a minus, and what follows. -/
def sign (s : List Char) : Bool × List Char :=
  match s with
  | '+' :: rest => (false, rest)
  | '-' :: rest => (true, rest)
  | rest => (false, rest)

/-- The digits of a whole number: a zero alone, or digits that start with none. -/
def whole? (s : List Char) : Option (List Char × List Char) :=
  match s with
  | '0' :: rest => some (['0'], rest)
  | rest => digits? 10 rest

/-- The fraction behind a point: its digits. -/
def fraction? (s : List Char) : Option (List Char × List Char) :=
  match s with
  | '.' :: rest => digits? 10 rest
  | _ => none

/-- The exponent behind its mark. -/
def exponent? (s : List Char) : Option (Int × List Char) :=
  match s with
  | c :: rest =>
    if c = 'e' ∨ c = 'E' then
      let (down, rest) := sign rest
      (digits? 10 rest).bind fun (ds, rest) =>
        (Numeral.ofChars? 10 ds).map fun n => (if down then -(n : Int) else n, rest)
    else none
  | [] => none

/-- The number of digits with a fraction and an exponent. A number too large is refused, unless it is
negative: then it is infinite. -/
def floating? (negative : Bool) (ds fs : List Char) (e : Int) : Option Decimal.Floating :=
  (Numeral.ofChars? 10 (ds ++ fs)).bind fun n =>
    match Decimal.Binary64.ofDecimal? n (e - fs.length) with
    | some x => some (.finite negative x)
    | none => if negative then some (.infinite true) else none

/-- An integer of 64 bits. -/
def integer? (n : Int) : Option Scalar :=
  (Numeral.int64? n).map fun _ => .integer n

/-- A number in decimal, whole or not, or one of the names of what is no number. -/
def decimal? (s : List Char) : Option (Scalar × List Char) :=
  let (negative, rest) := sign s
  match rest with
  | 'i' :: 'n' :: 'f' :: rest => some (.floating (.infinite negative), rest)
  | 'n' :: 'a' :: 'n' :: rest => some (.floating .nan, rest)
  | rest => do
    let (ds, rest) ← whole? rest
    match fraction? rest, exponent? rest with
    | some (fs, rest), _ =>
      let (e, rest) := (exponent? rest).getD (0, rest)
      return (.floating (← floating? negative ds fs e), rest)
    | none, some (e, rest) => return (.floating (← floating? negative ds [] e), rest)
    | none, none =>
      let n : Int := ((Numeral.ofChars? 10 ds).getD 0 : Nat)
      return (← integer? (if negative then -n else n), rest)

/-- A number: behind `0x`, `0o` or `0b` in that base, else decimal. -/
def number? (s : List Char) : Option (Scalar × List Char) :=
  let inBase (base : Nat) (s : List Char) : Option (Scalar × List Char) := do
    let (ds, rest) ← digits? base s
    let n ← Numeral.ofChars? base ds
    return (← integer? n, rest)
  match s with
  | '0' :: 'x' :: rest => inBase 16 rest
  | '0' :: 'o' :: rest => inBase 8 rest
  | '0' :: 'b' :: rest => inBase 2 rest
  | s => decimal? s

/-! ## Points in time -/

/-- A number of so many digits within bounds. -/
def fixed? (width least greatest : Nat) (s : List Char) : Option (Nat × List Char) :=
  let ds := s.take width
  if ds.length = width ∧ ds.all fun c => (Numeral.decimalDigit? c).isSome then
    (Numeral.ofChars? 10 ds).bind fun n =>
      if least ≤ n ∧ n ≤ greatest then some (n, s.drop width) else none
  else none

/-- What follows a character that has to be there. -/
def expect? (c : Char) (s : List Char) : Option (List Char) :=
  match s with
  | d :: rest => if d = c then some rest else none
  | [] => none

/-- The number of days of a month. -/
def daysOf (year month : Nat) : Nat :=
  let leap := year % 4 = 0 ∧ (year % 100 ≠ 0 ∨ year % 400 = 0)
  if month = 2 then if leap then 29 else 28
  else if month = 4 ∨ month = 6 ∨ month = 9 ∨ month = 11 then 30
  else 31

/-- What follows a date. -/
def date? (s : List Char) : Option (List Char) := do
  let (year, s) ← fixed? 4 0 9999 s
  let (month, s) ← fixed? 2 1 12 (← expect? '-' s)
  let (_, s) ← fixed? 2 1 (daysOf year month) (← expect? '-' s)
  return s

/-- What follows a time of day. Its seconds may have a fraction. -/
def time? (s : List Char) : Option (List Char) := do
  let (_, s) ← fixed? 2 0 23 s
  let (_, s) ← fixed? 2 0 59 (← expect? ':' s)
  let (_, s) ← fixed? 2 0 60 (← expect? ':' s)
  match s with
  | '.' :: c :: rest =>
    if (Numeral.decimalDigit? c).isSome then
      return rest.dropWhile fun c => (Numeral.decimalDigit? c).isSome
    else none
  | s => return s

/-- What follows the distance from universal time, if there is one. -/
def offset? (s : List Char) : Option (List Char) :=
  let minutes (s : List Char) : Option (List Char) := do
    let (_, s) ← fixed? 2 0 23 s
    let (_, s) ← fixed? 2 0 59 (← expect? ':' s)
    return s
  match s with
  | 'Z' :: rest => some rest
  | 'z' :: rest => some rest
  | '+' :: rest => minutes rest
  | '-' :: rest => minutes rest
  | rest => some rest

/-- A point in time: a date, a time of day, or both with an offset perhaps. A blank between date and
time divides them only if a time does follow. -/
def datetime? (s : List Char) : Option (Scalar × List Char) :=
  match date? s with
  | some rest =>
    let clock (s : List Char) : Option (Scalar × List Char) :=
      ((time? s).bind offset?).map (.datetime, ·)
    match rest with
    | 'T' :: rest => clock rest
    | 't' :: rest => clock rest
    | ' ' :: d :: after =>
      if (Numeral.decimalDigit? d).isSome then clock (d :: after) else some (.datetime, rest)
    | rest => some (.datetime, rest)
  | none => (time? s).map (.datetime, ·)

/-- Whether a date or a time of day starts here: digits up to a hyphen or a colon. -/
def looksTimed (s : List Char) : Bool :=
  let ds := s.takeWhile fun c => (Numeral.decimalDigit? c).isSome
  match s.drop ds.length with
  | c :: _ => !ds.isEmpty && (c == '-' || c == ':')
  | [] => false

/-- A scalar of any kind. -/
def scalar? (s : List Char) : Option (Scalar × List Char) :=
  match s with
  | 't' :: 'r' :: 'u' :: 'e' :: rest => some (.boolean true, rest)
  | 'f' :: 'a' :: 'l' :: 's' :: 'e' :: rest => some (.boolean false, rest)
  | '"' :: _ => (text? s).map fun (cs, rest) => (.text (String.ofList cs), rest)
  | '\x27' :: _ => (text? s).map fun (cs, rest) => (.text (String.ofList cs), rest)
  | s => if looksTimed s then datetime? s else number? s

end QueryAudit.Toml
