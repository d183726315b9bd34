import QueryAudit.Json.Shape
import QueryAudit.Json.Value
/-!
# Where events go and where they come from

A `Deployment` names the collector, the credential for it and the place that the queries run in. Every
field may be empty. Its display form shows all of it except the token, of which it shows only whether
there is one.
-/

namespace QueryAudit

/-- Collector, credential and identifiers of a deployment. -/
structure Deployment where
  /-- Address of the collector. -/
  endpoint : String := ""
  /-- Credential sent with every event. -/
  token : String := ""
  /-- Index the event goes to; empty leaves the choice to the collector. -/
  index : String := ""
  /-- Host reported with each event. -/
  host : String := ""
  /-- Namespace of the pod. -/
  podNamespace : String := ""
  /-- Name of the pod. -/
  pod : String := ""
deriving DecidableEq

namespace Deployment

/-- The names of the six fields. -/
inductive Field
  | endpoint
  | token
  | index
  | host
  | podNamespace
  | pod
deriving DecidableEq

namespace Field

/-- The fields in their order. -/
def all : List Field := [endpoint, token, index, host, podNamespace, pod]

/-- The key of a field, in files and in JSON. -/
def key : Field → String
  | endpoint => "endpoint"
  | token => "token"
  | index => "index"
  | host => "host"
  | podNamespace => "namespace"
  | pod => "pod"

/-- The field of a key. -/
def ofKey? (k : String) : Option Field := all.find? (·.key == k)

end Field

/-- The value of a field. -/
def get (d : Deployment) : Field → String
  | .endpoint => d.endpoint
  | .token => d.token
  | .index => d.index
  | .host => d.host
  | .podNamespace => d.podNamespace
  | .pod => d.pod

/-- The deployment with one field replaced. -/
def set (d : Deployment) (f : Field) (value : String) : Deployment :=
  match f with
  | .endpoint => { d with endpoint := value }
  | .token => { d with token := value }
  | .index => { d with index := value }
  | .host => { d with host := value }
  | .podNamespace => { d with podNamespace := value }
  | .pod => { d with pod := value }

/-- Every field that `values` gives is replaced, the others stay. -/
def overlay (d : Deployment) (values : Field → Option String) : Deployment :=
  Field.all.foldl (fun d f => (values f).elim d (d.set f)) d

@[simp] theorem get_set (d : Deployment) (f g : Field) (value : String) :
    (d.set f value).get g = if g = f then value else d.get g := by
  cases f <;> cases g <;> rfl

/-- A field of the overlaid deployment is the given value, or else the old one. -/
@[simp] theorem get_overlay (d : Deployment) (values : Field → Option String) (f : Field) :
    (d.overlay values).get f = (values f).getD (d.get f) := by
  have step (e : Deployment) (g h : Field) :
      ((values g).elim e (e.set g)).get h = if h = g then (values g).getD (e.get h) else e.get h := by
    cases hv : values g <;> simp
  cases f <;> simp [overlay, Field.all, step]

/-- Two deployments with the same fields are the same. -/
theorem ext_get {d e : Deployment} (h : ∀ f, d.get f = e.get f) : d = e := by
  cases d
  cases e
  have h1 := h .endpoint
  have h2 := h .token
  have h3 := h .index
  have h4 := h .host
  have h5 := h .podNamespace
  have h6 := h .pod
  simp_all [get]

/-! ## JSON -/

/-- The fields of a deployment in JSON. -/
def shape : Json.Shape Deployment where
  title := "struct SplunkEnv"
  fields := Field.all.map fun f => ⟨f.key, [], .text fun s d => d.set f s⟩
  initial := {}

/-- The deployment that a JSON text holds. -/
def ofJson (text : Bytes) : Except Json.Located Deployment := shape.decode text

/-- The deployment as a JSON value, with every field. -/
def value (d : Deployment) : Json.Value :=
  .ofMembers (Field.all.map fun f => (f.key, .ofString (d.get f)))

/-- The deployment as JSON text. -/
def toJson (d : Deployment) : String := d.value.toText

/-! ## Display -/

/-- The token as it is displayed: empty stays empty, anything else is masked. -/
def redactedToken (d : Deployment) : String := if d.token = "" then "" else "********"

/-- A field as it is displayed. -/
def shown (d : Deployment) (f : Field) : String :=
  if f = .token then d.redactedToken else d.get f

/-- The title of the display forms. -/
def title : String := "SplunkEnv"

/-- The display form on one line. -/
def display (d : Deployment) : String :=
  let rows := Field.all.map fun f => f.key ++ ": " ++ Text.quoted (d.shown f)
  title ++ " \x7b " ++ ", ".intercalate rows ++ " \x7d"

/-- The display form with a line for each field. -/
def displayLines (d : Deployment) : String :=
  let rows := Field.all.map fun f => "    " ++ f.key ++ ": " ++ Text.quoted (d.shown f) ++ ",\n"
  title ++ " \x7b\n" ++ String.join rows ++ "\x7d"

end Deployment

end QueryAudit
