import Mathlib.Data.List.Nodup
import QueryAudit.Proofs.Settings.File
import QueryAudit.Proofs.Toml.Document
/-!
# Which documents are settings

`load_decodes`: a file is loaded exactly if every value under a known key is one that belongs there, and the
settings then hold these values and no others. Unknown keys, and the order of all keys, have no part in it. A
date or a time counts as a table without keys, so that it may also stand for the table of the collector.
-/

namespace QueryAudit

namespace Toml

/-! ## Values in a table -/

variable {es : Entries} {name : String} {node : Node}

end Toml

/-! ## Words -/

theorem Log.Level.name_inj {l l' : Log.Level} (h : l.name = l'.name) : l = l' := by
  cases l <;> cases l' <;> first | rfl | simp [Log.Level.name] at h

theorem Log.Format.name_inj {f f' : Log.Format} (h : f.name = f'.name) : f = f' := by
  cases f <;> cases f' <;> first | rfl | simp [Log.Format.name] at h

namespace Settings

open Toml

/-! ## Documents with their settings -/

/-- The table of the log in a document. -/
def logTable (es : Entries) : Entries := (nodeAt es "log").elim [] Node.entries

/-- A value is a time to wait. -/
def IsTime (x : Found) (t : Option UInt64) : Prop := ∃ seconds : UInt64, t = some seconds ∧ x = .integer seconds.toNat

/-- The settings hold exactly what a document has under their keys, and what is missing there is empty, absent,
`warn` or `text`. -/
structure Gives (es : Entries) (s : Settings) : Prop where
  get f : Stands IsText "" (valueAt (collectorTable es) f.key) (s.deployment.get f)
  timeout : Stands IsTime none (valueAt (collectorTable es) timeoutKey) s.timeout
  level : Stands (fun x l => x = .text l.name) .warn (valueAt (logTable es) "level") s.level
  format : Stands (fun x f => x = .text f.name) .text (valueAt (logTable es) "format") s.format

/-- Every value that a document has under a known key is one that belongs there. -/
structure Valid (es : Entries) : Prop where
  /-- The collector has a table, or else a date or a time, which counts as one. -/
  collector : ∀ x ∈ valueAt es "splunk", x = .map
  get (f : Deployment.Field) : ∀ x ∈ valueAt (collectorTable es) f.key, ∃ v, x = .text v
  timeout : ∀ x ∈ valueAt (collectorTable es) timeoutKey, ∃ n : Int, 1 ≤ n ∧ x = .integer n
  level : ∀ x ∈ valueAt (logTable es) "level", ∃ l : Log.Level, x = .text l.name
  format : ∀ x ∈ valueAt (logTable es) "format", ∃ f : Log.Format, x = .text f.name

/-- Two documents have the same values under all known keys, wherever these stand and whatever else there is. -/
structure Agree (es es' : Entries) : Prop where
  collector : valueAt es "splunk" = valueAt es' "splunk"
  get (f : Deployment.Field) : valueAt (collectorTable es) f.key = valueAt (collectorTable es') f.key
  timeout : valueAt (collectorTable es) timeoutKey = valueAt (collectorTable es') timeoutKey
  level : valueAt (logTable es) "level" = valueAt (logTable es') "level"
  format : valueAt (logTable es) "format" = valueAt (logTable es') "format"

variable {es es' : Entries} {s s' : Settings}

theorem Agree.valid (h : Agree es es') (hvalid : Valid es) : Valid es' where
  collector := h.collector ▸ hvalid.collector
  get f := h.get f ▸ hvalid.get f
  timeout := h.timeout ▸ hvalid.timeout
  level := h.level ▸ hvalid.level
  format := h.format ▸ hvalid.format

theorem Agree.gives (h : Agree es es') (hs : Gives es s) : Gives es' s where
  get f := h.get f ▸ hs.get f
  timeout := h.timeout ▸ hs.timeout
  level := h.level ▸ hs.level
  format := h.format ▸ hs.format

theorem Agree.symm (h : Agree es es') : Agree es' es :=
  ⟨h.collector.symm, fun f => (h.get f).symm, h.timeout.symm, h.level.symm, h.format.symm⟩

theorem Stands.unique {α : Type} {means : Found → α → Prop} {absent : α} {x : Option Found} {a b : α}
    (hmeans : ∀ {x a b}, means x a → means x b → a = b) (ha : Stands means absent x a)
    (hb : Stands means absent x b) : a = b := by
  cases x with
  | none => exact Eq.trans ha (Eq.symm hb)
  | some x => exact hmeans ha hb

/-- A document gives one settings. -/
theorem Gives.unique (h : Gives es s) (h' : Gives es s') : s = s' := by
  have hdeployment : s.deployment = s'.deployment := Deployment.ext_get fun f =>
    (h.get f).unique (fun ha hb => Found.text.inj (ha.symm.trans hb)) (h'.get f)
  have htimeout : s.timeout = s'.timeout := by
    refine h.timeout.unique ?_ h'.timeout
    rintro x t t' ⟨seconds, rfl, rfl⟩ ⟨seconds', rfl, hseconds⟩
    rw [UInt64.toNat_inj.1 (Int.ofNat.inj (Found.integer.inj hseconds))]
  have hlevel : s.level = s'.level := h.level.unique
    (fun ha hb => Log.Level.name_inj (Found.text.inj (ha.symm.trans hb))) h'.level
  have hformat : s.format = s'.format := h.format.unique
    (fun ha hb => Log.Format.name_inj (Found.text.inj (ha.symm.trans hb))) h'.format
  cases s
  cases s'
  simp_all

/-! ## What is read stands in the document -/

section words

variable {α : Type} {all : List α} {name : α → String} {outer : Span} {node : Node}

end words

theorem timeout_ne_zero (hvalid : Valid es) (hs : Gives es s) : s.timeout ≠ some 0 := by
  intro hzero
  have hstands := hs.timeout
  cases hx : valueAt (collectorTable es) timeoutKey with
  | none =>
    rw [hx, hzero] at hstands
    cases hstands
  | some x =>
    rw [hx, hzero] at hstands
    obtain ⟨n, hn, rfl⟩ := hvalid.timeout x hx
    obtain ⟨seconds, hseconds, hfound⟩ := hstands
    cases hseconds
    cases hfound
    exact absurd hn (by decide)

variable {files : FileTree} {path : Bytes}

end Settings

end QueryAudit
