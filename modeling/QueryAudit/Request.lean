import QueryAudit.Envelope
import QueryAudit.Failure
import QueryAudit.Product
import QueryAudit.Text.Base64
import QueryAudit.Url.Address
/-!
# Requests

A `Request` is the one HTTP request that carries an event. `Request.build` makes it from a record and a
deployment. The endpoint is looked at first and the token after it: an endpoint that is no web address
fails in one of the ways that `endpoint` lists, in that order, whatever the token is. The body never
fails.
-/

namespace QueryAudit

/-- The request that carries an event. -/
structure Request where
  url : Url.Web
  /-- Header names in lower case with their values, sorted by name. -/
  headers : List (String × String)
  body : Bytes
deriving DecidableEq

namespace Request

/-- The method of every request. -/
def method : String := "POST"

/-! ## The endpoint -/

/-- The part of an endpoint before the first mark, and the part behind it if there is one. -/
def cutOnce (mark : Char) (s : List Char) : List Char × List Char :=
  let (head, tail) := Url.splitAtFirst (· == mark) s
  (head, tail.drop 1)

/-- The first stray percent sign with up to two characters behind it. What stands between the first
question mark and the first hash is not looked at: a query is passed on as it is. -/
def invalidEscape? (endpoint : List Char) : Option (List Char) :=
  let (page, fragment) := cutOnce '#' endpoint
  let path := (cutOnce '?' page).1
  (Url.Percent.strayEscape? path <|> Url.Percent.strayEscape? fragment).map (·.take 3)

/-- The web address of an endpoint, or why it has none. -/
def endpoint (text : String) : Outcome Url.Web :=
  if text = "" then .error (.send .noEndpoint)
  else
    match invalidEscape? text.toList with
    | some escape => .error (.request (.invalidEscape text (String.ofList escape)))
    | none =>
      match Url.Address.parse text.toList with
      | .error .noScheme => .error (.send (.unsupportedScheme ""))
      | .error .emptyHost => .error (.send (.noHost text))
      | .error fault => .error (.request (.malformedEndpoint text fault))
      | .ok (.foreign scheme) => .error (.send (.unsupportedScheme (String.ofList scheme)))
      | .ok (.web url) => .ok url

/-! ## The headers -/

/-- A character that a header value may hold: no control character but the tab. -/
def isHeaderChar (c : Char) : Bool := c == '\t' || (decide (0x20 ≤ c.toNat) && c.toNat != 0x7F)

/-- The value of the `authorization` header. -/
def authorization (token : String) : Outcome String :=
  let value := "Splunk " ++ token
  if value.toList.all isHeaderChar then .ok value else .error (.request .invalidHeader)

/-- The headers of every request, given the one that varies. -/
def headersWith (authorization : String) : List (String × String) :=
  [("accept", "application/json"), ("accept-encoding", "gzip"), ("authorization", authorization),
    ("content-type", "application/json; charset=utf-8"), ("user-agent", Product.userAgent)]

/-- Headers with others laid over them: of two with one name the later one counts. -/
def replaceHeaders (old new : List (String × String)) : List (String × String) :=
  old.filter (fun header => !new.any (·.1 == header.1)) ++ new

/-! ## The request -/

/-- The header that a user name and a password ask for. -/
def basicHeader (user : List Char) (password : Option (List Char)) : String × String :=
  let login := user ++ ':' :: password.getD []
  ("authorization", "Basic " ++ String.ofList (Text.Base64.encode (Utf8.encode login)))

/-- A request to an address, without a body yet. User name and password leave the address for a header. Without a
host there is nothing to send a request to. -/
def draft (url : Url.Web) : Outcome Request :=
  if url.hasHost then
    .ok {
      url := url.withoutCredentials
      headers := url.login?.toList.map fun (user, password) => basicHeader user password
      body := [] }
  else .error (.request (.unbuildable (String.ofList url.render)))

/-- The request for a record. Its headers take the place of those of the draft, so that the `authorization` header has
the token also where the endpoint has a user name and a password. -/
def build (r : Record) (d : Deployment) : Outcome Request := do
  let url ← endpoint d.endpoint
  let authorization ← authorization d.token
  let draft ← draft url
  return { draft with
    headers := replaceHeaders draft.headers (headersWith authorization)
    body := (Envelope.ofRecord r d).body }

/-- The address of a request, as it is written. -/
def address (q : Request) : String := String.ofList q.url.render

end Request

end QueryAudit
