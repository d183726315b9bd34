import QueryAudit.Json.Skip
/-!
# Structures in JSON

A `Shape` lists the fields of a structure: the keys a field answers to, the kind of value it takes and
where that value goes. `Shape.decode` reads a structure from an object, whose members may come in any
order, or from an array of the values in field order. A field that is missing keeps its initial
value, a key that is not known is skipped with its value, and a field that is given twice is a fault.
-/

namespace QueryAudit.Json

/-- The kind of value a field takes, and where the value goes. -/
inductive Slot (σ : Type)
  | text (put : String → σ → σ)
  | integer (put : Int64 → σ → σ)

/-- A field: the name that messages use, further spellings of its key, and its value. -/
structure Field (σ : Type) where
  name : String
  aliases : List String
  slot : Slot σ

/-- A structure: what messages call it, its fields in order, and what it holds before any is read. -/
structure Shape (σ : Type) where
  title : String
  fields : List (Field σ)
  initial : σ

/-! ## Single values -/

/-- The fault of a value that stands where `expected` should. The value is read first, so that a fault
inside it comes before. `bs` starts with the value. -/
def mismatch (expected : String) (bs : Bytes) : Fault :=
  let wrong (found : Found) (rest : Bytes) : Fault := .here (.wrongType found expected) rest
  let word (letters : Bytes) (found : Found) (rest : Bytes) : Fault :=
    match skipWord letters rest with
    | .ok rest => wrong found rest
    | .error f => f
  let number (negative : Bool) (rest : Bytes) : Fault :=
    match readUnsigned negative rest with
    | .ok (x, rest) => wrong x.found rest
    | .error f => f
  match bs with
  | [] => .ahead .valueExpected []
  | b :: rest =>
    match b with
    | 0x6E => word [0x75, 0x6C, 0x6C] .null rest
    | 0x74 => word [0x72, 0x75, 0x65] (.boolean true) rest
    | 0x66 => word [0x61, 0x6C, 0x73, 0x65] (.boolean false) rest
    | 0x2D => number true rest
    | 0x22 =>
      match readText rest with
      | .ok (cs, rest) => wrong (.text (String.ofList cs)) rest
      | .error f => f
    | 0x5B => wrong .sequence bs
    | 0x7B => wrong .map bs
    | _ => if isDigit b then number false bs else .ahead .valueExpected bs

/-- What messages call a text. -/
def textTitle : String := "a string"

/-- What messages call an integer of 64 bits. -/
def integerTitle : String := "i64"

/-- A text with its quotation marks. -/
def readString (bs : Bytes) : Except Fault (String × Bytes) :=
  match dropBlanks bs with
  | [] => .error (.ahead .endInValue [])
  | 0x22 :: rest => (readText rest).map fun (cs, rest) => (String.ofList cs, rest)
  | bs => .error (mismatch textTitle bs)

/-- A number that must be an integer of 64 bits. -/
def toInt64 : Number × Bytes → Except Fault (Int64 × Bytes)
  | (.integer n, rest) =>
    match Numeral.int64? n with
    | some i => .ok (i, rest)
    | none => .error (.here (.wrongValue (.integer n) integerTitle) rest)
  | (.floating x, rest) => .error (.here (.wrongType (.floating x) integerTitle) rest)

/-- An integer of 64 bits. -/
def readInt64 (bs : Bytes) : Except Fault (Int64 × Bytes) :=
  match dropBlanks bs with
  | [] => .error (.ahead .endInValue [])
  | b :: rest =>
    if b = 0x2D then (readUnsigned true rest).bind toInt64
    else if isDigit b then (readUnsigned false (b :: rest)).bind toInt64
    else .error (mismatch integerTitle (b :: rest))

/-- A value of the right kind, put where it goes. -/
def Slot.read {σ : Type} (slot : Slot σ) (state : σ) (bs : Bytes) : Except Fault (σ × Bytes) :=
  match slot with
  | .text put => (readString bs).map fun (s, rest) => (put s state, rest)
  | .integer put => (readInt64 bs).map fun (n, rest) => (put n state, rest)

theorem readString_length {bs rest : Bytes} {s : String} (h : readString bs = .ok (s, rest)) :
    rest.length < bs.length := by
  have := dropBlanks_length bs
  unfold readString at h
  split at h
  · simp at h
  · rename_i r _
    cases hr : readText r with
    | error f => simp [hr, Except.map] at h
    | ok v =>
      have := readText_length hr
      simp only [hr, Except.map, Except.ok.injEq, Prod.mk.injEq] at h
      grind
  · simp at h

theorem toInt64_rest {v : Number × Bytes} {n : Int64} {rest : Bytes}
    (h : toInt64 v = .ok (n, rest)) : rest = v.2 := by
  unfold toInt64 at h
  split at h
  · split at h <;> simp_all
  · simp at h

theorem readInt64_length {bs rest : Bytes} {n : Int64} (h : readInt64 bs = .ok (n, rest)) :
    rest.length < bs.length := by
  have := dropBlanks_length bs
  unfold readInt64 at h
  split at h
  · simp at h
  · rename_i b r _
    split at h
    · cases hr : readUnsigned true r with
      | error f => simp [hr, Except.bind] at h
      | ok v =>
        have := readUnsigned_length hr
        rw [hr] at h
        have := toInt64_rest h
        grind
    · split at h
      · cases hr : readUnsigned false (b :: r) with
        | error f => simp [hr, Except.bind] at h
        | ok v =>
          have := readUnsigned_length hr
          rw [hr] at h
          have := toInt64_rest h
          grind
      · simp at h

theorem Slot.read_length {σ : Type} {slot : Slot σ} {state state' : σ} {bs rest : Bytes}
    (h : slot.read state bs = .ok (state', rest)) : rest.length < bs.length := by
  unfold Slot.read at h
  split at h
  · cases hr : readString bs with
    | error f => simp [hr, Except.map] at h
    | ok v =>
      have := readString_length hr
      simp only [hr, Except.map, Except.ok.injEq, Prod.mk.injEq] at h
      grind
  · cases hr : readInt64 bs with
    | error f => simp [hr, Except.map] at h
    | ok v =>
      have := readInt64_length hr
      simp only [hr, Except.map, Except.ok.injEq, Prod.mk.injEq] at h
      grind

/-! ## Arrays -/

/-- The start of the next element, or `none` at the closing bracket, which is left in place. -/
def nextElement (first : Bool) (bs : Bytes) : Except Fault (Option Bytes) :=
  match dropBlanks bs with
  | [] => .error (.ahead .endInList [])
  | b :: rest =>
    if b = 0x5D then .ok none
    else if first then .ok (some (b :: rest))
    else if b = 0x2C then
      match dropBlanks rest with
      | [] => .error (.ahead .endInValue [])
      | c :: after =>
        if c = 0x5D then .error (.ahead .trailingComma (c :: after)) else .ok (some (c :: after))
    else .error (.ahead .listSeparatorExpected (b :: rest))

/-- What follows the closing bracket of an array that has no room for more elements. -/
def endList (bs : Bytes) : Except Fault Bytes :=
  match dropBlanks bs with
  | [] => .error (.ahead .endInList [])
  | b :: rest =>
    if b = 0x5D then .ok rest
    else if b = 0x2C then
      match dropBlanks rest with
      | 0x5D :: after => .error (.ahead .trailingComma (0x5D :: after))
      | after => .error (.ahead .trailingCharacters after)
    else .error (.ahead .trailingCharacters (b :: rest))

/-- The elements of an array, one for each field as long as there are any. -/
def readElements {σ : Type} : List (Field σ) → Bool → σ → Bytes → Except Fault (σ × Bytes)
  | [], _, state, bs => (endList bs).map (state, ·)
  | field :: fields, first, state, bs =>
    match nextElement first bs with
    | .error f => .error f
    | .ok none => (endList bs).map (state, ·)
    | .ok (some start) =>
      match field.slot.read state start with
      | .error f => .error f
      | .ok (state, rest) => readElements fields false state rest

/-! ## Objects -/

/-- The key of the next member and what follows it, or what follows the closing brace. -/
def nextKey (first : Bool) (bs : Bytes) : Except Fault (Option (List Char) × Bytes) :=
  let key (bs : Bytes) : Except Fault (Option (List Char) × Bytes) :=
    match bs with
    | 0x22 :: rest => (readText rest).map fun (cs, rest) => (some cs, rest)
    | bs => .error (.ahead .keyNotText bs)
  match dropBlanks bs with
  | [] => .error (.ahead .endInObject [])
  | b :: rest =>
    if b = 0x7D then .ok (none, rest)
    else if first then key (b :: rest)
    else if b = 0x2C then
      match dropBlanks rest with
      | [] => .error (.ahead .endInValue [])
      | c :: after =>
        if c = 0x7D then .error (.ahead .trailingComma (c :: after)) else key (c :: after)
    else .error (.ahead .objectSeparatorExpected (b :: rest))

theorem nextKey_length {first : Bool} {bs rest : Bytes} {k : Option (List Char)}
    (h : nextKey first bs = .ok (k, rest)) : rest.length < bs.length := by
  have hb := dropBlanks_length bs
  have text : ∀ {r rest : Bytes} {k : Option (List Char)},
      (readText r).map (fun (p : List Char × Bytes) => (some p.1, p.2)) = .ok (k, rest) →
        rest.length < r.length := by
    intro r rest k h
    cases hr : readText r with
    | error f => simp [hr, Except.map] at h
    | ok v =>
      have := readText_length hr
      simp only [hr, Except.map, Except.ok.injEq, Prod.mk.injEq] at h
      grind
  unfold nextKey at h
  simp only at h
  split at h
  · simp at h
  · rename_i b r heq
    rw [heq] at hb
    split at h
    · grind
    · split at h
      · split at h
        · have := text h
          grind
        · simp at h
      · split at h
        · have hr := dropBlanks_length r
          split at h
          · simp at h
          · rename_i heq'
            rw [heq'] at hr
            split at h
            · simp at h
            · split at h
              · have := text h
                grind
              · simp at h
        · simp at h

/-- The fault of a field given twice. It is noticed behind the second key, and the end of the object
is looked for before it is reported. -/
def duplicate {σ : Type} (field : Field σ) (bs : Bytes) : Fault :=
  match dropBlanks bs with
  | 0x7D :: rest => .here (.duplicateField field.name) rest
  | rest => .here (.duplicateField field.name) rest

namespace Shape

variable {σ : Type}

/-- The field that answers to a key. -/
def field? (shape : Shape σ) (key : List Char) : Option (Field σ) :=
  shape.fields.find? fun f => (f.name :: f.aliases).contains (String.ofList key)

/-- The members of an object up to its end. `seen` holds the names of the fields read so far. -/
def readMembers (shape : Shape σ) (first : Bool) (seen : List String) (state : σ) (bs : Bytes) :
    Except Fault (σ × Bytes) :=
  match _h : nextKey first bs with
  | .error f => .error f
  | .ok (none, rest) => .ok (state, rest)
  | .ok (some key, rest) =>
    match shape.field? key with
    | some field =>
      if seen.contains field.name then .error (duplicate field rest)
      else
        match _hc : skipColon rest with
        | .error f => .error f
        | .ok rest =>
          match _hv : field.slot.read state rest with
          | .error f => .error f
          | .ok (state, rest) => readMembers shape false (field.name :: seen) state rest
    | none =>
      match _hc : skipColon rest with
      | .error f => .error f
      | .ok rest =>
        match _hv : skipValue rest with
        | .error f => .error f
        | .ok rest => readMembers shape false seen state rest
termination_by bs.length
decreasing_by
  · have := nextKey_length _h
    have := skipColon_length _hc
    have := Slot.read_length _hv
    omega
  · have := nextKey_length _h
    have := skipColon_length _hc
    have := skipValue_length _hv
    omega

/-- A structure and what follows it. -/
def read (shape : Shape σ) (bs : Bytes) : Except Fault (σ × Bytes) :=
  match dropBlanks bs with
  | [] => .error (.ahead .endInValue [])
  | 0x5B :: rest => readElements shape.fields true shape.initial rest
  | 0x7B :: rest => shape.readMembers true [] shape.initial rest
  | bs => .error (mismatch shape.title bs)

/-- A structure that is all there is, blanks apart. -/
def readAll (shape : Shape σ) (bs : Bytes) : Except Fault σ :=
  match shape.read bs with
  | .error f => .error f
  | .ok (state, rest) =>
    match dropBlanks rest with
    | [] => .ok state
    | rest => .error (.ahead .trailingCharacters rest)

/-- The structure that a text holds, or what is wrong and where. -/
def decode (shape : Shape σ) (bs : Bytes) : Except Located σ :=
  match shape.readAll bs with
  | .error f => .error (f.locate bs)
  | .ok state => .ok state

end Shape

end QueryAudit.Json
