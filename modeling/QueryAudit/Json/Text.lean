import QueryAudit.Json.Fault
/-!
# Texts inside JSON

Everything here starts behind the opening quotation mark. `readText` decodes up to the closing one
and demands well-formed UTF-8; `skipText` only finds the closing mark. The `…_length` lemmas say
that each reader moves forward, which ends the loops built on them.
-/

namespace QueryAudit.Json

/-- The value of a hexadecimal digit. -/
def hexOctet? (b : UInt8) : Option Nat := Numeral.hexDigit? (Char.ofNat b.toNat)

/-- The number written by four hexadecimal digits. All four are passed before they are looked at. -/
def readHex4 : Bytes → Except Fault (Nat × Bytes)
  | a :: b :: c :: d :: rest =>
    match hexOctet? a, hexOctet? b, hexOctet? c, hexOctet? d with
    | some a, some b, some c, some d => .ok (Numeral.ofDigits 16 [a, b, c, d], rest)
    | _, _, _, _ => .error (.here .invalidEscape rest)
  | _ => .error (.here .endInText [])

theorem readHex4_length {bs rest : Bytes} {n : Nat} (h : readHex4 bs = .ok (n, rest)) :
    rest.length < bs.length := by
  unfold readHex4 at h
  (repeat' split at h) <;> grind

/-- The character that a letter names after a backslash. -/
def shortEscape? (b : UInt8) : Option Char :=
  match b with
  | 0x22 => some '"'
  | 0x5C => some '\\'
  | 0x2F => some '/'
  | 0x62 => some '\x08'
  | 0x66 => some '\x0C'
  | 0x6E => some '\n'
  | 0x72 => some '\r'
  | 0x74 => some '\t'
  | _ => none

/-- The second half of a surrogate pair: another escape, whose number must be a low surrogate. -/
def readLowSurrogate : Bytes → Except Fault (Nat × Bytes)
  | [] => .error (.here .endInText [])
  | 0x5C :: [] => .error (.here .endInText [])
  | 0x5C :: 0x75 :: rest => do
    let (n, rest) ← readHex4 rest
    if 0xDC00 ≤ n ∧ n ≤ 0xDFFF then .ok (n, rest) else .error (.here .loneSurrogate rest)
  | 0x5C :: _ :: rest => .error (.here .surrogatePairCut rest)
  | _ :: rest => .error (.here .surrogatePairCut rest)

theorem readLowSurrogate_length {bs rest : Bytes} {n : Nat}
    (h : readLowSurrogate bs = .ok (n, rest)) : rest.length < bs.length := by
  unfold readLowSurrogate at h
  split at h <;> try simp at h
  simp only [bind, Except.bind] at h
  split at h
  · simp at h
  · rename_i v hv
    split at h
    · have := readHex4_length hv
      simp only [Except.ok.injEq] at h
      grind
    · simp at h

/-- The character of an escape by number; a high surrogate takes a second one. -/
def readNumericEscape (bs : Bytes) : Except Fault (Char × Bytes) := do
  let (n, rest) ← readHex4 bs
  if 0xDC00 ≤ n ∧ n ≤ 0xDFFF then .error (.here .loneSurrogate rest)
  else if 0xD800 ≤ n ∧ n ≤ 0xDBFF then
    let (low, rest) ← readLowSurrogate rest
    .ok (Char.ofNat (0x10000 + (n - 0xD800) * 0x400 + (low - 0xDC00)), rest)
  else .ok (Char.ofNat n, rest)

theorem readNumericEscape_length {bs rest : Bytes} {c : Char}
    (h : readNumericEscape bs = .ok (c, rest)) : rest.length < bs.length := by
  simp only [readNumericEscape, bind, Except.bind] at h
  split at h
  · simp at h
  · rename_i v hv
    have := readHex4_length hv
    split at h
    · simp at h
    · split at h
      · split at h
        · simp at h
        · rename_i w hw
          have := readLowSurrogate_length hw
          simp only [Except.ok.injEq, Prod.mk.injEq] at h
          grind
      · simp only [Except.ok.injEq, Prod.mk.injEq] at h
        grind

/-- The character of an escape, from behind its backslash. -/
def readEscape : Bytes → Except Fault (Char × Bytes)
  | [] => .error (.here .endInText [])
  | b :: rest =>
    match shortEscape? b with
    | some c => .ok (c, rest)
    | none => if b = 0x75 then readNumericEscape rest else .error (.here .invalidEscape rest)

theorem readEscape_length {bs rest : Bytes} {c : Char} (h : readEscape bs = .ok (c, rest)) :
    rest.length < bs.length := by
  unfold readEscape at h
  split at h
  · simp at h
  · split at h
    · grind
    · split at h
      · have := readNumericEscape_length h
        grind
      · simp at h

/-- The octets that a text may not hold as they are. -/
def isControl (b : UInt8) : Bool := b < 0x20

/-- The characters up to the closing quotation mark. An ill-formed sequence is reported only if the
text is otherwise in order, and then where it begins. -/
def readText (bs : Bytes) : Except Fault (List Char × Bytes) :=
  match bs with
  | [] => .error (.here .endInText [])
  | b :: tail =>
    if b = 0x22 then .ok ([], tail)
    else if b = 0x5C then
      match _h : readEscape tail with
      | .error f => .error f
      | .ok (c, rest) => (readText rest).map fun (cs, rest) => (c :: cs, rest)
    else if isControl b then .error (.here .controlCharacter tail)
    else
      match _h : Utf8.next? (b :: tail) with
      | some (c, rest) => (readText rest).map fun (cs, rest) => (c :: cs, rest)
      | none =>
        match readText tail with
        | .error f => .error (if f.cause = .invalidCodePoint then .here .invalidCodePoint tail else f)
        | .ok _ => .error (.here .invalidCodePoint tail)
termination_by bs.length
decreasing_by
  · have := readEscape_length _h
    grind
  · exact Utf8.next?_length _h
  · simp

theorem readText_length {bs rest : Bytes} {cs : List Char} (h : readText bs = .ok (cs, rest)) :
    rest.length < bs.length := by
  fun_induction readText bs generalizing cs rest with
  | case1 => simp at h
  | case2 => grind
  | case3 => simp at h
  | case4 _ c r hr _ ih =>
    cases hread : readText r with
    | error f => simp [hread, Except.map] at h
    | ok v =>
      have := readEscape_length hr
      have := ih hread
      simp only [hread, Except.map, Except.ok.injEq, Prod.mk.injEq] at h
      grind
  | case5 => simp at h
  | case6 b tail _ _ _ c r hr ih =>
    cases hread : readText r with
    | error f => simp [hread, Except.map] at h
    | ok v =>
      have := Utf8.next?_length hr
      have := ih hread
      simp only [hread, Except.map, Except.ok.injEq, Prod.mk.injEq] at h
      grind
  | case7 => simp at h
  | case8 => simp at h

/-- What follows an escape, from behind its backslash, without a look at what it stands for. -/
def skipEscape : Bytes → Except Fault Bytes
  | [] => .error (.here .endInText [])
  | b :: rest =>
    if (shortEscape? b).isSome then .ok rest
    else if b = 0x75 then (readHex4 rest).map (·.2)
    else .error (.here .invalidEscape rest)

theorem skipEscape_length {bs rest : Bytes} (h : skipEscape bs = .ok rest) :
    rest.length < bs.length := by
  unfold skipEscape at h
  split at h
  · simp at h
  · split at h
    · grind
    · split at h
      · rename_i r _ _
        cases hr : readHex4 r with
        | error f => simp [hr, Except.map] at h
        | ok v =>
          have := readHex4_length hr
          simp only [hr, Except.map, Except.ok.injEq] at h
          grind
      · simp at h

/-- What follows the closing quotation mark of a text that nobody reads. -/
def skipText (bs : Bytes) : Except Fault Bytes :=
  match bs with
  | [] => .error (.here .endInText [])
  | b :: tail =>
    if b = 0x22 then .ok tail
    else if b = 0x5C then
      match _h : skipEscape tail with
      | .error f => .error f
      | .ok rest => skipText rest
    else if isControl b then .error (.here .controlCharacter (b :: tail))
    else skipText tail
termination_by bs.length
decreasing_by
  · have := skipEscape_length _h
    grind
  · simp

theorem skipText_length {bs rest : Bytes} (h : skipText bs = .ok rest) :
    rest.length < bs.length := by
  fun_induction skipText bs with
  | case1 => simp at h
  | case2 => grind
  | case3 => simp at h
  | case4 _ r hr _ ih =>
    have := skipEscape_length hr
    have := ih h
    grind
  | case5 => simp at h
  | case6 _ _ _ _ _ ih =>
    have := ih h
    grind

end QueryAudit.Json
