import QueryAudit.Json.Fault
import QueryAudit.Url.Fault
/-!
# Failures

Everything that can go wrong, each with its wording in one place. The first four are the points at
which the write of an event can fail, in order: the request cannot be built, it cannot be sent, the
answer cannot be read, the collector refuses the event.
-/

namespace QueryAudit

/-- Why a request could not be built: the endpoint or the token cannot be put into one. -/
inductive RequestCause
  | invalidEscape (endpoint escape : String)
  | malformedEndpoint (endpoint : String) (fault : Url.Fault)
  | invalidHeader
  /-- There is no drafting a request to this address. -/
  | unbuildable (url : String)
deriving DecidableEq

/-- Why a request never got an answer that could be read to its end. -/
inductive SendCause
  | noEndpoint
  | noHost (endpoint : String)
  | unsupportedScheme (scheme : String)
  | unsendable (url : String)
  | noAnswer (url : String)
  | answerCut
deriving DecidableEq

/-- Why a file could not be read. -/
inductive FileCause
  | isDirectory
  | notText
deriving DecidableEq

/-- A failure of this program. -/
inductive Failure
  | request (cause : RequestCause)
  | send (cause : SendCause)
  | unreadableAck (fault : Json.Located)
  | rejected (code : Int64) (text : String)
  | invalidConfig (detail : String)
  /-- A configuration file whose text is no TOML at all. -/
  | unparsedConfig (path : String) (text : List Char)
  | file (cause : FileCause)
deriving DecidableEq

/-- The wording of the cause behind a request that could not be built. -/
def RequestCause.message : RequestCause → String
  | invalidEscape endpoint escape =>
    "invalid URL escape " ++ Text.quoted escape ++ " in endpoint " ++ Text.quoted endpoint
  | malformedEndpoint endpoint fault =>
    "malformed endpoint " ++ Text.quoted endpoint ++ ": " ++ fault.describe
  | invalidHeader => "header value cannot be encoded: failed to parse header value"
  | unbuildable url => "builder error for url (" ++ url ++ ")"

/-- The wording of the cause behind a request that got no answer. -/
def SendCause.message : SendCause → String
  | noEndpoint => "no collector endpoint configured"
  | noHost endpoint => "no host in endpoint " ++ Text.quoted endpoint
  | unsupportedScheme scheme => "unsupported protocol scheme " ++ Text.quoted scheme
  | unsendable url => "builder error for url (" ++ url ++ ")"
  | noAnswer url => "error sending request for url (" ++ url ++ ")"
  | answerCut => "error decoding response body"

/-- The wording of the cause behind a file that could not be read. -/
def FileCause.message : FileCause → String
  | isDirectory => "Is a directory (os error 21)"
  | notText => "stream did not contain valid UTF-8"

namespace Failure

/-- What is said after every complaint about the configuration. -/
def configHint : String :=
  "\n\n  Check the [splunk] and [log] sections of your config file,\n  "
    ++ "the SPLUNK_* environment variables, or the matching flags."

/-- The wording of a complaint about the configuration. -/
def configMessage (detail : String) : String := "Invalid configuration: " ++ detail ++ configHint

/-- The wording of the cause behind a failure, if it has one. -/
def source? : Failure → Option String
  | request cause => some cause.message
  | send cause => some cause.message
  | unreadableAck fault => some fault.message
  | _ => none

/-- The wording of a failure. What is wrong with a text that is no TOML is for the reader of TOML to say. -/
def message (syntaxFault : List Char → String) : Failure → String
  | request cause => "unable to create request to Splunk: " ++ cause.message
  | send cause => "unable to send request to Splunk: " ++ cause.message
  | unreadableAck fault => "unable to unmarshal Splunk response: " ++ fault.message
  | rejected code text =>
    "unable to write to Splunk: " ++ text ++ " (code "
      ++ String.ofList (Numeral.signedDecimal code.toInt) ++ ")"
  | invalidConfig detail => configMessage detail
  | unparsedConfig path text => configMessage ("Failed to parse " ++ path ++ ": " ++ syntaxFault text)
  | file cause => cause.message

end Failure

/-- A result, or the failure that took its place. -/
abbrev Outcome (α : Type) := Except Failure α

end QueryAudit
