import Mathlib.Data.List.Forall2
import QueryAudit.Console
import QueryAudit.Log.Event
/-!
# Lines as they are written

Letter by letter, what a line looks like that reports to the user (`Marked`) and one that goes into the log
(`Written`), and that the program's lines look like that.
-/

namespace QueryAudit

/-! ## Lines for the user -/

namespace Console

/-- A line with a mark before its words. The mark is set off by a code where a variable asks for colours. -/
structure Marked (e : Environment) (mark code words line : String) : Prop where
  plain : (∀ value, e.text? "CLICOLOR_FORCE" = some value → value = "0") →
    line = "  " ++ mark ++ " " ++ words ++ "\n"
  coloured : ∀ value, e.text? "CLICOLOR_FORCE" = some value → value ≠ "0" →
    line = "  \x1b[" ++ code ++ "m" ++ mark ++ "\x1b[0m " ++ words ++ "\n"

variable {e : Environment}

theorem isColoured_iff : isColoured e = true ↔ ∃ value, e.text? "CLICOLOR_FORCE" = some value ∧ value ≠ "0" := by
  simp [isColoured, Option.any_eq_true]

theorem marked_painted {style : Style} {mark code : String}
    (hcode : painted true style mark = "\x1b[" ++ code ++ "m" ++ mark ++ "\x1b[0m") (words : String) :
    Marked e mark code words ("  " ++ painted (isColoured e) style mark ++ " " ++ words ++ "\n") where
  plain h := by
    have hplain : isColoured e = false := Bool.eq_false_iff.2 fun hc => by
      obtain ⟨value, hvalue, hne⟩ := isColoured_iff.1 hc
      exact hne (h value hvalue)
    rw [hplain]
    rfl
  coloured value hvalue hne := by
    rw [isColoured_iff.2 ⟨value, hvalue, hne⟩, hcode]
    simp only [String.append_assoc]
    rfl

theorem marked_success (e : Environment) (words : String) :
    Marked e "✓" "32" words (success (isColoured e) words) := marked_painted rfl words

end Console

/-! ## Lines of the log -/

namespace Log

/-- What a write has to say: that it starts, that the collector has answered, and that it has refused the event. -/
inductive Notice
  | starts (r : Record) (d : Deployment)
  | answered (a : Answer)
  | refused (code : Int64) (text : String)

namespace Notice

/-- Whether a notice is let through where messages up to a level are. A refusal is a warning. -/
def passes : Notice → Level → Bool
  | _, .debug | _, .trace => true
  | .refused .., .warn | .refused .., .info => true
  | _, _ => false

/-- The message of a notice. -/
def event : Notice → Event
  | starts r d => .writing r d
  | answered a => .responded a
  | refused code text => .refused code text

theorem passes_eq (n : Notice) (l : Level) : n.passes l = decide (n.event.level.rank ≤ l.rank) := by
  cases n <;> cases l <;> rfl

end Notice

/-- A text that is set off by a code where colours are wanted. -/
def setOff (coloured : Bool) (code s : String) : String :=
  if coloured then "\x1b[" ++ code ++ "m" ++ s ++ "\x1b[0m" else s

/-- A field and its value. -/
def given (coloured : Bool) (name value : String) : String :=
  " " ++ setOff coloured "3" name ++ setOff coloured "2" "=" ++ value

/-- The line of a notice in a format, from behind its time. -/
inductive Written (coloured : Bool) : Format → Notice → Line → Prop
  | starts {r d} : Written coloured .text (.starts r d) (.text (" " ++ setOff coloured "34" "DEBUG" ++
      " writing audit event to Splunk" ++ given coloured "user" r.user ++
      given coloured "time" (String.ofList (Numeral.signedDecimal r.timestamp.toInt)) ++
      given coloured "index" d.index))
  | answered {a} : Written coloured .text (.answered a) (.text (" " ++ setOff coloured "34" "DEBUG" ++
      " collector responded" ++ given coloured "url" a.url ++
      given coloured "status" (Status.describe a.status) ++
      given coloured "bytes" (String.ofList (Numeral.decimal a.body.length))))
  | refused {code text} : Written coloured .text (.refused code text) (.text (" " ++ setOff coloured "33" " WARN" ++
      " Splunk rejected audit event" ++
      given coloured "code" (String.ofList (Numeral.signedDecimal code.toInt)) ++ given coloured "text" text))
  | startsMembers {r d} : Written coloured .json (.starts r d) (.object [("level", .ofString "DEBUG"),
      ("message", .ofString "writing audit event to Splunk"), ("user", .ofString r.user),
      ("time", .integer r.timestamp.toInt), ("index", .ofString d.index),
      ("target", .ofString "gabi_audit::adapters::audit::splunk_audit")])
  | answeredMembers {a} : Written coloured .json (.answered a) (.object [("level", .ofString "DEBUG"),
      ("message", .ofString "collector responded"), ("url", .ofString a.url),
      ("status", .ofString (Status.describe a.status)), ("bytes", .integer a.body.length),
      ("target", .ofString "gabi_audit::adapters::audit::transport")])
  | refusedMembers {code text} : Written coloured .json (.refused code text) (.object [("level", .ofString "WARN"),
      ("message", .ofString "Splunk rejected audit event"), ("code", .integer code.toInt),
      ("text", .ofString text), ("target", .ofString "gabi_audit::adapters::audit::splunk_audit")])

theorem line_eq (coloured : Bool) (e : Event) : e.line coloured =
    " " ++ setOff coloured (Event.colour e.level) (Event.paddedLevel e.level) ++ (" " ++ e.message) ++
      String.join (e.fields.map fun field => given coloured field.1 field.2.render) := by
  rw [← String.append_assoc]
  rfl

theorem append_join (s : String) (parts : List String) : s ++ String.join parts = parts.foldl (· ++ ·) s := by
  induction parts generalizing s with
  | nil => exact String.append_empty
  | cons part parts ih =>
    rw [List.foldl_cons, ← ih, String.join_cons, String.append_assoc]

theorem written_line (coloured : Bool) (n : Notice) : Written coloured .text n (.text (n.event.line coloured)) := by
  have hdebug : Event.paddedLevel .debug = "DEBUG" := by decide
  have hwarn : Event.paddedLevel .warn = " WARN" := by decide
  rw [line_eq, append_join]
  cases n with
  | starts r d =>
    simp only [Notice.event, Event.writing, hdebug]
    exact .starts
  | answered a =>
    simp only [Notice.event, Event.responded, hdebug]
    exact .answered
  | refused code text =>
    simp only [Notice.event, Event.refused, hwarn]
    exact .refused

theorem written_ofEvent (format : Format) (coloured : Bool) (n : Notice) :
    Written coloured format n (Line.ofEvent format coloured n.event) := by
  cases format with
  | text => exact written_line coloured n
  | json =>
    cases n with
    | starts r d => exact .startsMembers
    | answered a => exact .answeredMembers
    | refused code text => exact .refusedMembers

/-- What is let through and written of some notices. -/
theorem forall₂_written (format : Format) (coloured : Bool) (l : Level) (notices : List Notice) :
    List.Forall₂ (Written coloured format) (notices.filter (·.passes l))
      (((notices.map Notice.event).filter fun e => e.level.rank ≤ l.rank).map (Line.ofEvent format coloured)) := by
  have hfilter : ((notices.map Notice.event).filter fun e => e.level.rank ≤ l.rank) =
      (notices.filter (·.passes l)).map Notice.event := by
    rw [List.filter_map]
    exact congrArg _ (List.filter_congr fun n _ => (n.passes_eq l).symm)
  rw [hfilter, List.map_map, List.forall₂_map_right_iff]
  exact List.forall₂_same.2 fun n _ => written_ofEvent format coloured n

end Log

end QueryAudit
