import QueryAudit.Json.Number
import QueryAudit.Json.Text
/-!
# Values nobody reads

`skipValue` passes one JSON value of any kind and any depth. It keeps the brackets that are still open
on a stack of its own, so that depth costs no recursion, and it looks at the form of a value only: a
number may be out of range and a text ill-formed. `skipValue_length` says that it moves forward.
-/

namespace QueryAudit.Json

/-- The octets that may stand between tokens. -/
def isBlank (b : UInt8) : Bool := b == 0x20 || b == 0x0A || b == 0x09 || b == 0x0D

/-- What follows the blanks. -/
def dropBlanks (bs : Bytes) : Bytes := bs.dropWhile isBlank

theorem dropBlanks_length (bs : Bytes) : (dropBlanks bs).length ≤ bs.length :=
  (List.dropWhile_sublist _).length_le

/-- What follows the remaining letters of a word. -/
def skipWord : (word : Bytes) → Bytes → Except Fault Bytes
  | [], bs => .ok bs
  | _ :: _, [] => .error (.here .endInValue [])
  | w :: word, b :: bs => if b = w then skipWord word bs else .error (.here .literalExpected bs)

theorem skipWord_length {word bs rest : Bytes} (h : skipWord word bs = .ok rest) :
    rest.length ≤ bs.length := by
  fun_induction skipWord word bs <;> grind

/-- What follows the colon between a key and its value. -/
def skipColon (bs : Bytes) : Except Fault Bytes :=
  match dropBlanks bs with
  | [] => .error (.ahead .endInObject [])
  | 0x3A :: rest => .ok rest
  | rest => .error (.ahead .colonExpected rest)

theorem skipColon_length {bs rest : Bytes} (h : skipColon bs = .ok rest) :
    rest.length < bs.length := by
  have := dropBlanks_length bs
  unfold skipColon at h
  split at h <;> grind

/-- The two kinds of brackets. -/
inductive Bracket
  | list
  | object
deriving DecidableEq

namespace Bracket

/-- The octet that closes a bracket. -/
def close : Bracket → UInt8
  | list => 0x5D
  | object => 0x7D

/-- What is wrong when the text ends inside a bracket. -/
def endInside : Bracket → Cause
  | list => .endInList
  | object => .endInObject

/-- What is wrong when a value inside a bracket is not followed by a comma or the end. -/
def separatorExpected : Bracket → Cause
  | list => .listSeparatorExpected
  | object => .objectSeparatorExpected

end Bracket

/-- What follows the key and colon of a member; an element of a list has neither. -/
def skipLabel (b : Bracket) (bs : Bytes) : Except Fault Bytes :=
  match b with
  | .list => .ok bs
  | .object =>
    match dropBlanks bs with
    | [] => .error (.ahead .endInObject [])
    | 0x22 :: rest => do skipColon (← skipText rest)
    | rest => .error (.ahead .keyNotText rest)

theorem skipLabel_length {b : Bracket} {bs rest : Bytes} (h : skipLabel b bs = .ok rest) :
    rest.length ≤ bs.length := by
  have := dropBlanks_length bs
  unfold skipLabel at h
  split at h
  · grind
  · split at h
    · simp at h
    · simp only [bind, Except.bind] at h
      split at h
      · simp at h
      · rename_i hs
        have := skipText_length hs
        have := skipColon_length h
        grind
    · simp at h

/-- What follows a value that is neither a list nor an object and starts with `b`. -/
def skipScalar (b : UInt8) (rest : Bytes) : Except Fault Bytes :=
  match b with
  | 0x6E => skipWord [0x75, 0x6C, 0x6C] rest
  | 0x74 => skipWord [0x72, 0x75, 0x65] rest
  | 0x66 => skipWord [0x61, 0x6C, 0x73, 0x65] rest
  | 0x22 => skipText rest
  | 0x2D => skipUnsigned rest
  | _ => if isDigit b then skipUnsigned (b :: rest) else .error (.ahead .valueExpected (b :: rest))

theorem skipScalar_length {b : UInt8} {bs rest : Bytes} (h : skipScalar b bs = .ok rest) :
    rest.length < (b :: bs).length := by
  unfold skipScalar at h
  split at h
  · have := skipWord_length h
    grind
  · have := skipWord_length h
    grind
  · have := skipWord_length h
    grind
  · have := skipText_length h
    grind
  · have := skipUnsigned_length h
    grind
  · split at h
    · exact skipUnsigned_length h
    · simp at h

mutual

/-- A value is due, inside the open brackets. -/
def skipDue (stack : List Bracket) (bs : Bytes) : Except Fault Bytes :=
  match _h : dropBlanks bs with
  | [] => .error (.ahead .endInValue [])
  | b :: rest =>
    if b = 0x5B then skipOpened .list stack rest
    else if b = 0x7B then skipOpened .object stack rest
    else
      match _h' : skipScalar b rest with
      | .error f => .error f
      | .ok rest => skipEnded stack rest
termination_by (bs.length, 0)
decreasing_by
  all_goals
    have := dropBlanks_length bs
    rw [_h] at this
    apply Prod.Lex.left
  · grind
  · grind
  · have := skipScalar_length _h'
    grind

/-- A bracket has just been opened. -/
def skipOpened (top : Bracket) (stack : List Bracket) (bs : Bytes) : Except Fault Bytes :=
  match _h : dropBlanks bs with
  | [] => .error (.ahead top.endInside [])
  | b :: rest =>
    if b = top.close then skipEnded stack rest
    else
      match _h' : skipLabel top (b :: rest) with
      | .error f => .error f
      | .ok after => skipDue (top :: stack) after
termination_by (bs.length, 1)
decreasing_by
  all_goals
    have := dropBlanks_length bs
    rw [_h] at this
  · apply Prod.Lex.left
    grind
  · have := skipLabel_length _h'
    rcases Nat.lt_or_ge after.length bs.length with hlt | hge
    · exact Prod.Lex.left _ _ hlt
    · rw [show after.length = bs.length by grind]
      exact Prod.Lex.right _ (by decide)

/-- A value inside the open brackets has just ended. -/
def skipEnded (stack : List Bracket) (bs : Bytes) : Except Fault Bytes :=
  match stack with
  | [] => .ok bs
  | top :: stack =>
    match _h : dropBlanks bs with
    | [] => .error (.ahead top.endInside [])
    | b :: rest =>
      if b = 0x2C then
        match _h' : skipLabel top rest with
        | .error f => .error f
        | .ok rest => skipDue (top :: stack) rest
      else if b = top.close then skipEnded stack rest
      else .error (.ahead top.separatorExpected (b :: rest))
termination_by (bs.length, 0)
decreasing_by
  all_goals
    have := dropBlanks_length bs
    rw [_h] at this
    apply Prod.Lex.left
  · have := skipLabel_length _h'
    grind
  · grind

end

/-- What follows one value. -/
def skipValue (bs : Bytes) : Except Fault Bytes := skipDue [] bs

/-- The three stages of skipping move forward together: by induction on what is left. -/
theorem skip_length (n : Nat) : ∀ (stack : List Bracket) (bs rest : Bytes), bs.length ≤ n →
    (skipDue stack bs = .ok rest → rest.length < bs.length) ∧
    (∀ top, skipOpened top stack bs = .ok rest → rest.length < bs.length) ∧
    (skipEnded stack bs = .ok rest → rest.length ≤ bs.length) := by
  induction n with
  | zero =>
    intro stack bs rest hn
    obtain rfl : bs = [] := List.length_eq_zero_iff.1 (by omega)
    refine ⟨fun h => ?_, fun top h => ?_, fun h => ?_⟩
    · simp [skipDue, dropBlanks] at h
    · simp [skipOpened, dropBlanks] at h
    · rw [skipEnded.eq_def] at h
      split at h
      · grind
      · simp [dropBlanks] at h
  | succ n ih =>
    intro stack bs rest hn
    have hb := dropBlanks_length bs
    have due : ∀ (stack : List Bracket) (bs rest : Bytes), bs.length ≤ n + 1 →
        skipDue stack bs = .ok rest → rest.length < bs.length := by
      intro stack bs rest hn h
      have hb := dropBlanks_length bs
      rw [skipDue] at h
      split at h
      · simp at h
      · rename_i b r heq
        rw [heq] at hb
        split at h
        · have := (ih stack r rest (by grind)).2.1 _ h
          grind
        · split at h
          · have := (ih stack r rest (by grind)).2.1 _ h
            grind
          · split at h
            · simp at h
            · rename_i hs
              have hl := skipScalar_length hs
              have := (ih stack _ rest (by grind)).2.2 h
              grind
    refine ⟨due stack bs rest hn, fun top h => ?_, fun h => ?_⟩
    · rw [skipOpened] at h
      split at h
      · simp at h
      · rename_i b r heq
        rw [heq] at hb
        split at h
        · have := (ih stack r rest (by grind)).2.2 h
          grind
        · split at h
          · simp at h
          · rename_i hs
            have hl := skipLabel_length hs
            have := due (top :: stack) _ rest (by grind) h
            grind
    · rw [skipEnded.eq_def] at h
      split at h
      · grind
      · split at h
        · simp at h
        · rename_i heq
          rw [heq] at hb
          split at h
          · split at h
            · simp at h
            · rename_i hs
              have hl := skipLabel_length hs
              have := (ih _ _ rest (by grind)).1 h
              grind
          · split at h
            · have := (ih _ _ rest (by grind)).2.2 h
              grind
            · simp at h

theorem skipValue_length {bs rest : Bytes} (h : skipValue bs = .ok rest) :
    rest.length < bs.length :=
  (skip_length bs.length [] bs rest (Nat.le_refl _)).1 h

end QueryAudit.Json
