import QueryAudit.Url.Domain.Direction
import QueryAudit.Url.Domain.Joiner
import QueryAudit.Url.Domain.Mapping
import QueryAudit.Url.Domain.Punycode
/-!
# Domain names

A domain name is brought to one form in lower-case ASCII. A name in ASCII is so already, but for its
capital letters. Otherwise its characters are replaced by what they stand for, the whole is brought to
normal form and cut into labels, and each label with other characters than ASCII is written in ASCII
behind the sign `xn--`. A label that is given with this sign is read first, and has to be one that this
procedure would write. Whichever way it came, the result holds no forbidden character.
-/

namespace QueryAudit.Url.Domain

/-- A character of ASCII. -/
def isAscii (c : Char) : Bool := decide (c.toNat < 0x80)

/-- An ASCII character that no domain name may hold. -/
def isForbidden (c : Char) : Bool :=
  decide (c.toNat ≤ 0x20) || c.toNat == 0x7F || ['%', '#', '/', ':', '<', '>', '?', '@', '[', '\\',
    ']', '^', '|'].contains c

/-- An ASCII letter in lower case. -/
def lower (c : Char) : Char := if 'A' ≤ c ∧ c ≤ 'Z' then Char.ofNat (c.toNat + 0x20) else c

/-- What follows the sign of a label that is written in ASCII. -/
def afterSign? : List Char → Option (List Char)
  | x :: n :: '-' :: '-' :: rest => if lower x = 'x' ∧ lower n = 'n' then some rest else none
  | _ => none

/-- A name in ASCII without labels that stand for others. -/
def isPlain (s : List Char) : Bool :=
  s.all isAscii && (Text.cutAt '.' s).all fun label => (afterSign? label).isNone

/-- The most characters that a label has which is read or written in ASCII. -/
def longestRead : Nat := 2000

/-- The most characters that a label has which is written in ASCII. -/
def longestWritten : Nat := 1000

/-- The label that a label stands for, if it has the sign: it has other characters than ASCII, all of
them stand for themselves, and it is in normal form. -/
def read? (label : List Char) : Option (List Char) :=
  match afterSign? label with
  | none => some label
  | some s =>
    if longestRead < s.length then none
    else
      (Punycode.decode? s).filter fun l =>
        l.any (!isAscii ·) && l.all Mapping.isKept && NormalForm.normalize l == l
          && (afterSign? l).isNone

/-- A label in ASCII. -/
def write? (label : List Char) : Option (List Char) :=
  if label.all isAscii then some label
  else if longestWritten < label.length then none
  else some (['x', 'n', '-', '-'] ++ Punycode.encode label)

/-- The labels of a name, each as what it stands for. -/
def labels? (s : List Char) : Option (List (List Char)) :=
  match s.mapM Mapping.expand? with
  | none => none
  | some parts => (Text.cutAt '.' (NormalForm.normalize parts.flatten)).mapM read?

/-- A name with other characters than ASCII, or with labels that stand for some, in ASCII. -/
def international? (s : List Char) : Option (List Char) :=
  match labels? s with
  | none => none
  | some labels =>
    if labels.all Joiner.isWellPlaced && Direction.areOneWay labels then
      (labels.mapM write?).map (['.'].intercalate ·)
    else none

/-- The one form of a domain name in ASCII, or none if the text is no domain name. -/
def toAscii? (s : List Char) : Option (List Char) :=
  match if isPlain s then some s else international? s with
  | none => none
  | some name => if name.any isForbidden then none else some (name.map lower)

end QueryAudit.Url.Domain
