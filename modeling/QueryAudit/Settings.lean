import QueryAudit.Failure
import QueryAudit.FileTree
import QueryAudit.Log.Level
import QueryAudit.Sink
/-!
# Settings

What the program works with: a deployment, how long to wait for the collector, and how much to log.
Settings start from a file or from defaults; variables and options are laid over them afterwards and
replace single fields.
-/

namespace QueryAudit

/-- What the program works with. -/
structure Settings where
  deployment : Deployment := {}
  /-- Seconds to wait for the collector, if that is said. -/
  timeout : Option UInt64 := none
  level : Log.Level := .warn
  format : Log.Format := .text
deriving DecidableEq

namespace Settings

/-- Seconds to wait when nothing is said. -/
def defaultTimeout : UInt64 := 10

/-- Seconds to wait. -/
def seconds (s : Settings) : UInt64 := s.timeout.getD defaultTimeout

/-- Values no sink could work with are refused. -/
def validate (s : Settings) : Outcome Unit :=
  if s.timeout = some 0 then .error (.invalidConfig "splunk.timeout_secs must be greater than zero")
  else .ok ()

/-- Fields of the deployment replaced. -/
def overlay (s : Settings) (values : Values) : Settings :=
  { s with deployment := s.deployment.overlay values }

/-- The variable of each field. -/
def variableName : Deployment.Field → String
  | .endpoint => "SPLUNK_ENDPOINT"
  | .token => "SPLUNK_TOKEN"
  | .index => "SPLUNK_INDEX"
  | .host => "HOST"
  | .podNamespace => "NAMESPACE"
  | .pod => "POD_NAME"

end Settings

/-- The fields that variables give. An empty variable gives an empty field; one that is no text gives
nothing. -/
def Environment.values (e : Environment) : Values := fun f => e.text? (Settings.variableName f)

end QueryAudit
