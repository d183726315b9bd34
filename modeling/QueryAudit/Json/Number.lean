import QueryAudit.Json.Fault
/-!
# Numbers inside JSON

A number without fraction and exponent that fits 64 bits is an integer; every other one is a
floating-point number. Its digits are gathered into a significand of 64 bits, further digits only
move the point, and the significand is scaled by a rounded power of ten. `skipNumber` passes a number
that nobody reads and checks its form only.
-/

namespace QueryAudit.Json

/-- A number as it is read. -/
inductive Number
  | integer (value : Int)
  | floating (value : Decimal.Floating)
deriving DecidableEq

namespace Number

/-- What the number is called where something else is expected. -/
def found : Number → Found
  | integer value => .integer value
  | floating value => .floating value

end Number

/-- The value of a decimal digit. -/
def digit? (b : UInt8) : Option Nat := Numeral.decimalDigit? (Char.ofNat b.toNat)

/-- A decimal digit. -/
def isDigit (b : UInt8) : Bool := (digit? b).isSome

/-- The letter that announces an exponent. -/
def isExponentMark (b : UInt8) : Bool := b == 0x65 || b == 0x45

/-- What remains behind a run of digits. -/
def skipDigits (bs : Bytes) : Bytes := bs.dropWhile isDigit

theorem skipDigits_length (bs : Bytes) : (skipDigits bs).length ≤ bs.length :=
  (List.dropWhile_sublist _).length_le

/-- Digits are gathered while the number stays within `limit`: the number, how many digits were
taken, and what remains. -/
def gather (limit : Nat) : (n taken : Nat) → Bytes → Nat × Nat × Bytes
  | n, taken, [] => (n, taken, [])
  | n, taken, b :: rest =>
    match digit? b with
    | some d =>
      if n * 10 + d ≤ limit then gather limit (n * 10 + d) (taken + 1) rest
      else (n, taken, b :: rest)
    | none => (n, taken, b :: rest)

theorem gather_length (limit n taken : Nat) (bs : Bytes) :
    (gather limit n taken bs).2.2.length ≤ bs.length := by
  fun_induction gather limit n taken bs <;> grind

/-- Largest significand. -/
def greatestSignificand : Nat := UInt64.size - 1

/-- Largest exponent that is looked at. -/
def greatestExponent : Nat := 0x7FFFFFFF

/-- Exponents that one power of ten reaches. -/
def powerReach : Int := 308

/-- A magnitude times a rounded power of ten. Exponents below the reach take as many steps of the
largest power as they need. -/
def scale (x : Decimal.Binary64) (e : Int) (steps : Nat) : Option Decimal.Binary64 :=
  let power (k : Nat) : Option Decimal.Binary64 := Decimal.Binary64.ofNat? (Nat.pow 10 k)
  if powerReach < e then if x.isZero then some x else none
  else if 0 ≤ e then do x.mul? (← power e.toNat)
  else if -powerReach ≤ e then do x.div? (← power (-e).toNat)
  else if x.isZero then some x
  else
    match steps with
    | 0 => some x
    | steps + 1 => do scale (← x.div? (← power powerReach.toNat)) (e + powerReach) steps

/-- The number with a significand and a decimal exponent. Ten steps bring every significand to zero. -/
def ofParts (negative : Bool) (significand : Nat) (e : Int) (rest : Bytes) :
    Except Fault (Number × Bytes) :=
  match (Decimal.Binary64.ofNat? significand).bind fun x => scale x e 10 with
  | some x => .ok (.floating (.finite negative x), rest)
  | none => .error (.here .numberOutOfRange rest)

/-- The sign in front of an exponent: whether it is a minus, and what follows. -/
def exponentSign : Bytes → Bool × Bytes
  | 0x2B :: rest => (false, rest)
  | 0x2D :: rest => (true, rest)
  | rest => (false, rest)

/-- The number whose exponent starts here, behind its mark. An exponent that is too large settles the
matter, unless there is nothing to scale. -/
def readExponent (negative : Bool) (significand : Nat) (e : Int) (bs : Bytes) :
    Except Fault (Number × Bytes) :=
  let (down, bs) := exponentSign bs
  match bs with
  | [] => .error (.here .endInValue [])
  | b :: rest =>
    if isDigit b then
      match gather greatestExponent 0 0 (b :: rest) with
      | (k, _, rest) =>
        match rest with
        | c :: after =>
          if isDigit c then
            if significand ≠ 0 ∧ ¬down then .error (.here .numberOutOfRange after)
            else .ok (.floating (.finite negative .zero), skipDigits after)
          else ofParts negative significand (if down then e - k else e + k) (c :: after)
        | [] => ofParts negative significand (if down then e - k else e + k) []
    else .error (.here .invalidNumber rest)

/-- The number whose digits have ended, with an exponent perhaps. -/
def readScale (negative : Bool) (significand : Nat) (e : Int) (bs : Bytes) :
    Except Fault (Number × Bytes) :=
  match bs with
  | b :: rest => if isExponentMark b then readExponent negative significand e rest
    else ofParts negative significand e bs
  | [] => ofParts negative significand e []

/-- The number whose fraction starts here, behind the point. -/
def readFraction (negative : Bool) (significand : Nat) (e : Int) (bs : Bytes) :
    Except Fault (Number × Bytes) :=
  match gather greatestSignificand significand 0 bs with
  | (m, taken, rest) =>
    let e := e - taken
    match rest with
    | b :: _ =>
      if isDigit b then readScale negative m e (skipDigits rest)
      else if taken = 0 then .error (.ahead .invalidNumber rest)
      else readScale negative m e rest
    | [] => if taken = 0 then .error (.ahead .endInValue []) else readScale negative m e []

/-- The number whose whole part does not fit the significand: the digits left over move the point. -/
def readLong (negative : Bool) (significand : Nat) (bs : Bytes) : Except Fault (Number × Bytes) :=
  let rest := skipDigits bs
  let e : Int := bs.length - rest.length
  match rest with
  | 0x2E :: after => readFraction negative significand e after
  | _ => readScale negative significand e rest

/-- An integer, if it fits 64 bits with its sign; a negative one beyond them, and minus zero, are
floating-point numbers. -/
def ofWhole (negative : Bool) (n : Nat) : Number :=
  if ¬negative then .integer n
  else if n = 0 ∨ 0x8000000000000000 < n then
    .floating (.finite true ((Decimal.Binary64.ofNat? n).getD .zero))
  else .integer (-n)

/-- The number whose whole part has ended. -/
def readTail (negative : Bool) (n : Nat) (bs : Bytes) : Except Fault (Number × Bytes) :=
  match bs with
  | 0x2E :: rest => readFraction negative n 0 rest
  | b :: rest =>
    if isExponentMark b then readExponent negative n 0 rest else .ok (ofWhole negative n, bs)
  | [] => .ok (ofWhole negative n, [])

/-- The number that starts here, behind its sign. -/
def readUnsigned (negative : Bool) (bs : Bytes) : Except Fault (Number × Bytes) :=
  match bs with
  | [] => .error (.here .endInValue [])
  | b :: rest =>
    if b = 0x30 then
      match rest with
      | c :: _ => if isDigit c then .error (.ahead .invalidNumber rest)
        else readTail negative 0 rest
      | [] => readTail negative 0 []
    else if isDigit b then
      match gather greatestSignificand 0 0 bs with
      | (n, _, rest) =>
        match rest with
        | c :: _ => if isDigit c then readLong negative n rest else readTail negative n rest
        | [] => readTail negative n []
    else .error (.here .invalidNumber rest)

/-! ## Reading moves forward -/

theorem exponentSign_length (bs : Bytes) : (exponentSign bs).2.length ≤ bs.length := by
  unfold exponentSign
  split <;> simp

theorem ofParts_length {neg : Bool} {m : Nat} {e : Int} {bs rest : Bytes} {x : Number}
    (h : ofParts neg m e bs = .ok (x, rest)) : rest = bs := by
  unfold ofParts at h
  split at h <;> grind

theorem readExponent_length {neg : Bool} {m : Nat} {e : Int} {bs rest : Bytes} {x : Number}
    (h : readExponent neg m e bs = .ok (x, rest)) : rest.length ≤ bs.length := by
  have hs := exponentSign_length bs
  have hg := gather_length greatestExponent 0 0 (exponentSign bs).2
  unfold readExponent at h
  generalize exponentSign bs = p at h hs hg
  obtain ⟨down, cs⟩ := p
  simp only at h hs hg
  split at h
  · simp at h
  · split at h
    · split at h
      · rename_i c after heq
        rw [heq] at hg
        have := skipDigits_length after
        split at h
        · split at h
          · simp at h
          · grind
        · have := ofParts_length h
          grind
      · have := ofParts_length h
        grind
    · simp at h

theorem readScale_length {neg : Bool} {m : Nat} {e : Int} {bs rest : Bytes} {x : Number}
    (h : readScale neg m e bs = .ok (x, rest)) : rest.length ≤ bs.length := by
  unfold readScale at h
  split at h
  · split at h
    · have := readExponent_length h
      grind
    · have := ofParts_length h
      grind
  · have := ofParts_length h
    grind

theorem readFraction_length {neg : Bool} {m : Nat} {e : Int} {bs rest : Bytes} {x : Number}
    (h : readFraction neg m e bs = .ok (x, rest)) : rest.length ≤ bs.length := by
  have hg := gather_length greatestSignificand m 0 bs
  unfold readFraction at h
  split at h
  rename_i r heq
  rw [heq] at hg
  have hd := skipDigits_length r
  simp only at h hg
  split at h
  · split at h
    · have := readScale_length h
      grind
    · split at h
      · simp at h
      · have := readScale_length h
        grind
  · split at h
    · simp at h
    · have := readScale_length h
      grind

theorem readLong_length {neg : Bool} {m : Nat} {bs rest : Bytes} {x : Number}
    (h : readLong neg m bs = .ok (x, rest)) : rest.length ≤ bs.length := by
  have hd := skipDigits_length bs
  unfold readLong at h
  simp only at h
  split at h
  · have := readFraction_length h
    grind
  · have := readScale_length h
    grind

theorem readTail_length {neg : Bool} {n : Nat} {bs rest : Bytes} {x : Number}
    (h : readTail neg n bs = .ok (x, rest)) : rest.length ≤ bs.length := by
  unfold readTail at h
  split at h
  · have := readFraction_length h
    grind
  · split at h
    · have := readExponent_length h
      grind
    · grind
  · grind

theorem gather_lt_length (limit b : Nat) {x : UInt8} (bs : Bytes) (hx : isDigit x = true)
    (h : b * 10 + 9 ≤ limit) : (gather limit b 0 (x :: bs)).2.2.length < (x :: bs).length := by
  obtain ⟨d, hd⟩ := Option.isSome_iff_exists.1 hx
  have hd9 : d ≤ 9 := by
    simp only [digit?, Numeral.decimalDigit?, Option.ite_none_right_eq_some, Option.some.injEq] at hd
    obtain ⟨⟨_, h9⟩, rfl⟩ := hd
    have : (Char.ofNat x.toNat).toNat ≤ '9'.toNat := h9
    have h9' : '9'.toNat = 0x39 := rfl
    omega
  have := gather_length limit (b * 10 + d) 1 bs
  rw [gather]
  simp only [hd, show b * 10 + d ≤ limit by omega, if_true, List.length_cons]
  simp only [Nat.zero_add]
  omega

theorem readUnsigned_length {neg : Bool} {bs rest : Bytes} {x : Number}
    (h : readUnsigned neg bs = .ok (x, rest)) : rest.length < bs.length := by
  unfold readUnsigned at h
  split at h
  · simp at h
  · split at h
    · split at h
      · split at h
        · simp at h
        · have := readTail_length h
          grind
      · have := readTail_length h
        grind
    · split at h
      · rename_i b r _ hb
        have hg := gather_lt_length greatestSignificand 0 r hb (by decide)
        split at h
        rename_i heq
        rw [heq] at hg
        split at h
        · split at h
          · have := readLong_length h
            grind
          · have := readTail_length h
            grind
        · have := readTail_length h
          grind
      · simp at h

/-! ## Numbers nobody reads -/

/-- What follows the exponent that starts here. -/
def skipExponent (bs : Bytes) : Except Fault Bytes :=
  match (exponentSign bs).2 with
  | [] => .error (.here .invalidNumber [])
  | b :: rest => if isDigit b then .ok (skipDigits rest) else .error (.here .invalidNumber rest)

/-- What follows the fraction that starts here. -/
def skipFraction (bs : Bytes) : Except Fault Bytes :=
  match bs with
  | [] => .error (.ahead .invalidNumber [])
  | b :: rest =>
    if isDigit b then
      match skipDigits rest with
      | [] => .ok []
      | c :: after => if isExponentMark c then skipExponent after else .ok (c :: after)
    else .error (.ahead .invalidNumber bs)

/-- What follows the fraction or exponent, if there is one. -/
def skipTail (bs : Bytes) : Except Fault Bytes :=
  match bs with
  | 0x2E :: rest => skipFraction rest
  | b :: rest => if isExponentMark b then skipExponent rest else .ok bs
  | [] => .ok []

/-- What follows the number that starts here, behind its sign. -/
def skipUnsigned (bs : Bytes) : Except Fault Bytes :=
  match bs with
  | [] => .error (.here .invalidNumber [])
  | b :: rest =>
    if b = 0x30 then
      match rest with
      | c :: _ => if isDigit c then .error (.ahead .invalidNumber rest) else skipTail rest
      | [] => .ok []
    else if isDigit b then skipTail (skipDigits rest)
    else .error (.here .invalidNumber rest)

theorem skipExponent_length {bs rest : Bytes} (h : skipExponent bs = .ok rest) :
    rest.length ≤ bs.length := by
  have hs := exponentSign_length bs
  unfold skipExponent at h
  split at h
  · simp at h
  · rename_i b r heq
    have := skipDigits_length r
    split at h <;> grind

theorem skipFraction_length {bs rest : Bytes} (h : skipFraction bs = .ok rest) :
    rest.length ≤ bs.length := by
  unfold skipFraction at h
  split at h
  · simp at h
  · rename_i b r
    have := skipDigits_length r
    split at h
    · split at h
      · grind
      · split at h
        · have := skipExponent_length h
          grind
        · grind
    · simp at h

theorem skipTail_length {bs rest : Bytes} (h : skipTail bs = .ok rest) :
    rest.length ≤ bs.length := by
  unfold skipTail at h
  split at h
  · have := skipFraction_length h
    grind
  · split at h
    · have := skipExponent_length h
      grind
    · grind
  · grind

theorem skipUnsigned_length {bs rest : Bytes} (h : skipUnsigned bs = .ok rest) :
    rest.length < bs.length := by
  unfold skipUnsigned at h
  split at h
  · simp at h
  · rename_i b r
    have := skipDigits_length r
    split at h
    · split at h
      · split at h
        · simp at h
        · have := skipTail_length h
          grind
      · grind
    · split at h
      · have := skipTail_length h
        grind
      · simp at h

end QueryAudit.Json
