import QueryAudit.Json.Skip
/-!
# The grammar of JSON

What a JSON text is, without a look at how it is read or written. `Spells σ t bs rest` says that the
octets `bs` start with a spelling of the tree `t` and that `rest` follows it; `IsText σ t body` says
that `body` spells `t` and nothing else. A `Spelling` leaves two things open: what may stand between
tokens, and what a text between quotation marks is known by. Under `Spelling.standard` it is known by
its characters; under `Spelling.loose` by its octets, whose form alone is checked.
-/

namespace QueryAudit.Json

/-! ## Texts -/

/-- The number that four hexadecimal digits write. -/
def hex4? (a b c d : UInt8) : Option Nat := do
  let a ← hexOctet? a
  let b ← hexOctet? b
  let c ← hexOctet? c
  let d ← hexOctet? d
  return Numeral.ofDigits 16 [a, b, c, d]

/-- The first half of a surrogate pair. -/
def IsHighSurrogate (n : Nat) : Prop := 0xD800 ≤ n ∧ n ≤ 0xDBFF

/-- The second half of a surrogate pair. -/
def IsLowSurrogate (n : Nat) : Prop := 0xDC00 ≤ n ∧ n ≤ 0xDFFF

/-- The character of a surrogate pair. -/
def pairChar (high low : Nat) : Char := Char.ofNat (0x10000 + (high - 0xD800) * 0x400 + (low - 0xDC00))

/-- What stands between quotation marks denotes a text: characters as they are, short escapes, and
escapes by number, where a character beyond the basic plane takes two. -/
inductive Decodes : Bytes → List Char → Prop
  | nil : Decodes [] []
  | plain {c bs cs} : 0x20 ≤ c.toNat → c ≠ '"' → c ≠ '\\' → Decodes bs cs →
      Decodes (Utf8.encodeChar c ++ bs) (c :: cs)
  | short {b c bs cs} : shortEscape? b = some c → Decodes bs cs → Decodes (0x5C :: b :: bs) (c :: cs)
  | unit {x y z w n bs cs} : hex4? x y z w = some n → ¬IsHighSurrogate n → ¬IsLowSurrogate n →
      Decodes bs cs → Decodes (0x5C :: 0x75 :: x :: y :: z :: w :: bs) (Char.ofNat n :: cs)
  | pair {x y z w n x' y' z' w' n' bs cs} : hex4? x y z w = some n → IsHighSurrogate n →
      hex4? x' y' z' w' = some n' → IsLowSurrogate n' → Decodes bs cs →
      Decodes (0x5C :: 0x75 :: x :: y :: z :: w :: 0x5C :: 0x75 :: x' :: y' :: z' :: w' :: bs)
        (pairChar n n' :: cs)

/-- Octets that may stand between quotation marks, whether or not they denote a text. -/
inductive IsRaw : Bytes → Prop
  | nil : IsRaw []
  | plain {b bs} : 0x20 ≤ b.toNat → b ≠ 0x22 → b ≠ 0x5C → IsRaw bs → IsRaw (b :: bs)
  | short {b c bs} : shortEscape? b = some c → IsRaw bs → IsRaw (0x5C :: b :: bs)
  | unit {x y z w n bs} : hex4? x y z w = some n → IsRaw bs →
      IsRaw (0x5C :: 0x75 :: x :: y :: z :: w :: bs)

/-- A text between quotation marks, and what follows it. -/
def Quoted (cs : List Char) (bs rest : Bytes) : Prop := ∃ raw, Decodes raw cs ∧ bs = 0x22 :: raw ++ 0x22 :: rest

/-- Octets between quotation marks, and what follows them. -/
def QuotedRaw (raw bs rest : Bytes) : Prop := IsRaw raw ∧ bs = 0x22 :: raw ++ 0x22 :: rest

/-! ## Numbers -/

/-- Decimal digits, at least one. -/
def IsDigits (ds : Bytes) : Prop := ds ≠ [] ∧ ∀ b ∈ ds, isDigit b = true

/-- A whole number without leading zeros. -/
def IsWhole (ds : Bytes) : Prop := IsDigits ds ∧ (ds.head? = some 0x30 → ds = [0x30])

/-- A fraction, or none. -/
def IsFraction (bs : Bytes) : Prop := bs = [] ∨ ∃ ds, IsDigits ds ∧ bs = 0x2E :: ds

/-- An exponent, or none. -/
def IsExponent (bs : Bytes) : Prop :=
  bs = [] ∨ ∃ mark sign ds, isExponentMark mark = true ∧ (sign = [] ∨ sign = [0x2B] ∨ sign = [0x2D]) ∧
    IsDigits ds ∧ bs = mark :: (sign ++ ds)

/-- A number: a sign perhaps, a whole number, a fraction and an exponent. -/
def IsNumber (bs : Bytes) : Prop :=
  ∃ sign whole fraction exponent, (sign = [] ∨ sign = [0x2D]) ∧ IsWhole whole ∧ IsFraction fraction ∧
    IsExponent exponent ∧ bs = sign ++ whole ++ fraction ++ exponent

/-- The value of a row of decimal digits. -/
def digitsValue (ds : Bytes) : Nat := Numeral.ofDigits 10 (ds.map fun b => b.toNat - 0x30)

/-- A number without fraction and exponent, and its value. Minus zero is none. -/
inductive IsInteger : Bytes → Int → Prop
  | natural {ds} : IsWhole ds → IsInteger ds (digitsValue ds)
  | negative {ds} : IsWhole ds → digitsValue ds ≠ 0 → IsInteger (0x2D :: ds) (-digitsValue ds)

/-! ## Values -/

/-- A JSON value, its elements and members in their order. -/
inductive Tree (τ : Type)
  | null
  | boolean (value : Bool)
  | number (literal : Bytes)
  | text (s : τ)
  | list (elements : List (Tree τ))
  | object (members : List (τ × Tree τ))

/-- What may stand between tokens, and how texts are spelled. -/
structure Spelling (τ : Type) where
  gap : Bytes → Bytes → Prop
  text : τ → Bytes → Bytes → Prop

/-- Blanks, any number of them. -/
def Blanks (bs rest : Bytes) : Prop := ∃ g, (∀ b ∈ g, isBlank b = true) ∧ bs = g ++ rest

/-- The spellings of JSON. -/
def Spelling.standard : Spelling (List Char) := ⟨Blanks, Quoted⟩

/-- The spellings of JSON without blanks. -/
def Spelling.compact : Spelling (List Char) := ⟨Eq, Quoted⟩

/-- The spellings of JSON, and those in which a text is none. -/
def Spelling.loose : Spelling Bytes := ⟨Blanks, QuotedRaw⟩

/-- The way to the next item: nothing before the first one, a comma before the others. -/
def Comma (gap : Bytes → Bytes → Prop) (first : Bool) (bs rest : Bytes) : Prop :=
  if first then bs = rest else gap bs (0x2C :: rest)

/-- The elements of a list up to its closing bracket. -/
inductive Elements {α : Type} (gap : Bytes → Bytes → Prop) (value : α → Bytes → Bytes → Prop) :
    Bool → List α → Bytes → Bytes → Prop
  | close {first bs rest} : gap bs (0x5D :: rest) → Elements gap value first [] bs rest
  | next {first a as bs c v e rest} : Comma gap first bs c → gap c v → value a v e →
      Elements gap value false as e rest → Elements gap value first (a :: as) bs rest

/-- The members of an object up to its closing brace. -/
inductive Members {κ α : Type} (gap : Bytes → Bytes → Prop) (key : κ → Bytes → Bytes → Prop)
    (value : α → Bytes → Bytes → Prop) : Bool → List (κ × α) → Bytes → Bytes → Prop
  | close {first bs rest} : gap bs (0x7D :: rest) → Members gap key value first [] bs rest
  | next {first k a as bs c l m n v e rest} : Comma gap first bs c → gap c l → key k l m →
      gap m (0x3A :: n) → gap n v → value a v e →
      Members gap key value false as e rest → Members gap key value first ((k, a) :: as) bs rest

/-- The octets start with a spelling of a tree, and this follows. -/
inductive Spells {τ : Type} (σ : Spelling τ) : Tree τ → Bytes → Bytes → Prop
  | null {rest} : Spells σ .null (0x6E :: 0x75 :: 0x6C :: 0x6C :: rest) rest
  | true {rest} : Spells σ (.boolean true) (0x74 :: 0x72 :: 0x75 :: 0x65 :: rest) rest
  | false {rest} : Spells σ (.boolean false) (0x66 :: 0x61 :: 0x6C :: 0x73 :: 0x65 :: rest) rest
  | number {literal rest} : IsNumber literal → Spells σ (.number literal) (literal ++ rest) rest
  | text {s bs rest} : σ.text s bs rest → Spells σ (.text s) bs rest
  | list {ts bs rest} : Elements σ.gap (Spells σ) true ts bs rest → Spells σ (.list ts) (0x5B :: bs) rest
  | object {ms bs rest} : Members σ.gap σ.text (Spells σ) true ms bs rest →
      Spells σ (.object ms) (0x7B :: bs) rest

/-- The octets spell a tree, and nothing else stands before or behind it. -/
def IsText {τ : Type} (σ : Spelling τ) (t : Tree τ) (body : Bytes) : Prop :=
  ∃ bs rest, σ.gap body bs ∧ Spells σ t bs rest ∧ σ.gap rest []

/-- The octets spell an object and nothing else. Its keys are known by their characters, the values of
its members by their octets. -/
def IsObject (members : List (List Char × Tree Bytes)) (body : Bytes) : Prop :=
  ∃ bs rest, Blanks body (0x7B :: bs) ∧ Members Blanks Quoted (Spells .loose) true members bs rest ∧
    Blanks rest []

/-- The octets spell an array and nothing else. Its elements are known by their octets. -/
def IsArray (elements : List (Tree Bytes)) (body : Bytes) : Prop :=
  ∃ bs rest, Blanks body (0x5B :: bs) ∧ Elements Blanks (Spells .loose) true elements bs rest ∧ Blanks rest []

end QueryAudit.Json
