import QueryAudit.Url.Host
import QueryAudit.Url.Path
/-!
# Addresses

An `Address` is what a text is once it is read as a URL: a web address with all its parts, or an
address of another scheme, of which only the scheme matters. `Address.parse` refuses what is no URL;
on the way it drops blanks at both ends, tabs and line breaks anywhere, a port that is the scheme's
own, and it brings every part of a web address to the one form in which `Web.render` writes it.
-/

namespace QueryAudit.Url

/-- The two schemes of web addresses. -/
inductive Scheme
  | http
  | https
deriving DecidableEq

namespace Scheme

/-- The name of a scheme, as it is written. -/
def name : Scheme → List Char
  | http => ['h', 't', 't', 'p']
  | https => ['h', 't', 't', 'p', 's']

/-- The port that goes without saying. -/
def defaultPort : Scheme → Nat
  | http => 80
  | https => 443

end Scheme

/-- A web address. -/
structure Web where
  scheme : Scheme
  /-- User name, percent-encoded. -/
  user : List Char
  /-- Password, percent-encoded; an empty one is none. -/
  password : List Char
  host : Host
  /-- The port, unless it is the scheme's own. -/
  port : Option Nat
  path : Path
  query : Option (List Char)
  fragment : Option (List Char)
deriving DecidableEq

/-- A text that is a URL. -/
inductive Address
  | web (url : Web)
  | foreign (scheme : List Char)
deriving DecidableEq

namespace Web

/-- User name and password in front of the host. -/
def credentials (u : Web) : List Char :=
  if u.user.isEmpty ∧ u.password.isEmpty then []
  else u.user ++ (if u.password.isEmpty then [] else ':' :: u.password) ++ ['@']

/-- Host and port, as a `host` header gives them. -/
def authority (u : Web) : List Char :=
  u.host.render ++ (u.port.elim [] fun p => ':' :: Numeral.decimal p)

/-- The written form without the fragment. -/
def renderPage (u : Web) : List Char :=
  u.scheme.name ++ [':', '/', '/'] ++ u.credentials ++ u.authority ++ u.path.render
    ++ u.query.elim [] ('?' :: ·)

/-- The written form. -/
def render (u : Web) : List Char := u.renderPage ++ u.fragment.elim [] ('#' :: ·)

/-- The address without user name and password, if these can be understood; else as it is. -/
def withoutCredentials (u : Web) : Web :=
  match Percent.decodeText? u.user, Percent.decodeText? u.password with
  | none, _ => u
  | some _, some _ => { u with user := [], password := [] }
  | some _, none => if u.user.isEmpty then u else { u with user := [], password := [] }

/-- User name and password, if there are any and they can be understood. -/
def login? (u : Web) : Option (List Char × Option (List Char)) := do
  let user ← Percent.decodeText? u.user
  let password := if u.password.isEmpty then none else Percent.decodeText? u.password
  if user.isEmpty && password.isNone then none else some (user, password)

/-- Whether the address names a host. -/
def hasHost (u : Web) : Bool := u.host != .domain []

end Web

/-! ## Cutting a text into parts -/

/-- A control character or space, as trimmed at both ends. -/
def isTrimmed (c : Char) : Bool := decide (c.toNat ≤ 0x20)

/-- A tab or line break, as dropped anywhere. -/
def isDropped (c : Char) : Bool := c == '\t' || c == '\n' || c == '\r'

/-- A text without the blanks that count for nothing. -/
def tidy (s : List Char) : List Char :=
  (((s.dropWhile isTrimmed).reverse.dropWhile isTrimmed).reverse).filter (!isDropped ·)

/-- A text up to the first character of a class, and from that character on. -/
def splitAtFirst (p : Char → Bool) (s : List Char) : List Char × List Char :=
  (s.takeWhile (!p ·), s.dropWhile (!p ·))

/-- A character inside a scheme. -/
def isSchemeChar (c : Char) : Bool := c.isAlphanum || c == '+' || c == '-' || c == '.'

/-- The scheme in lower case, and what follows its colon. -/
def scheme? (s : List Char) : Option (List Char × List Char) :=
  match s with
  | [] => none
  | c :: _ =>
    if c.isAlpha then
      match splitAtFirst (!isSchemeChar ·) s with
      | (name, ':' :: rest) => some (name.map Domain.lower, rest)
      | _ => none
    else none

/-- The schemes with a host that is treated as a web address's, and their default ports. -/
def hostedSchemes : List (List Char × Nat) :=
  [(['h', 't', 't', 'p'], 80), (['h', 't', 't', 'p', 's'], 443), (['w', 's'], 80),
    (['w', 's', 's'], 443), (['f', 't', 'p'], 21)]

/-- The end of an authority. A backslash ends it where it counts as a slash. -/
def endsAuthority (backslash : Bool) (c : Char) : Bool :=
  c == '/' || c == '?' || c == '#' || (backslash && c == '\\')

/-- What stands before the last at sign of an authority, if there is one, and what stands behind. -/
def splitCredentials (authority : List Char) : Option (List Char) × List Char :=
  let behind := authority.reverse.takeWhile (· != '@')
  if behind.length = authority.length then (none, authority)
  else (some (authority.take (authority.length - behind.length - 1)), behind.reverse)

/-- User name and password, percent-encoded; the first colon divides them. -/
def splitUser (credentials : List Char) : List Char × List Char :=
  let (user, password) := splitAtFirst (· == ':') credentials
  (Percent.encode Percent.userSet user, Percent.encode Percent.userSet (password.drop 1))

/-- Host and the rest from the first colon outside brackets on. -/
def splitHost : (inside : Bool) → List Char → List Char × List Char
  | _, [] => ([], [])
  | inside, c :: rest =>
    if c = ':' ∧ ¬inside then ([], c :: rest)
    else
      let (host, port) := splitHost (if c = '[' then true else if c = ']' then false else inside) rest
      (c :: host, port)

/-- The number behind the colon of a port; none at all is no port. -/
def port? (s : List Char) : Except Fault (Option Nat) :=
  match s with
  | [] => .ok none
  | _ :: [] => .ok none
  | _ :: digits =>
    match Numeral.ofChars? 10 digits with
    | some n => if n < 65536 then .ok (some n) else .error .invalidPort
    | none => .error .invalidPort

/-- The parts in front of a path: credentials, host and port, not yet understood, and what follows. -/
structure Front where
  credentials : Option (List Char)
  host : List Char
  port : List Char
  rest : List Char

/-- The front of what follows the slashes. An at sign with nothing on either side leaves no host. -/
def front (backslash : Bool) (s : List Char) : Except Fault Front :=
  let (authority, rest) := splitAtFirst (endsAuthority backslash) s
  let (credentials, place) := splitCredentials authority
  let (host, port) := splitHost false place
  if credentials = some [] ∧ place.isEmpty ∧ ¬rest.isEmpty then .error .emptyHost
  else .ok ⟨credentials, host, port, rest⟩

/-- Fragment and query at the end of a text, and what stands before them. -/
def splitTail (s : List Char) : List Char × Option (List Char) × Option (List Char) :=
  let (page, hash) := splitAtFirst (· == '#') s
  let (path, query) := splitAtFirst (· == '?') page
  let behind (t : List Char) : Option (List Char) := if t.isEmpty then none else some (t.drop 1)
  (path, behind query, behind hash)

/-! ## Reading -/

/-- An address with a host, from behind its slashes: the parts as a web address has them. -/
def hosted (scheme : Scheme) (defaultPort : Nat) (s : List Char) : Except Fault Web := do
  let f ← front true s
  if f.host.isEmpty then throw .emptyHost
  let host ← Host.parse f.host
  let port ← port? f.port
  let (user, password) := splitUser (f.credentials.getD [])
  let (path, query, fragment) := splitTail f.rest
  return {
    scheme, user, password, host
    port := port.filter (· != defaultPort)
    path := Path.parse path
    query := query.map (Percent.encode Percent.querySet)
    fragment := fragment.map (Percent.encode Percent.fragmentSet) }

/-- An address of another scheme is read so far that a malformed host or port is found. -/
def checkForeign (s : List Char) : Except Fault Unit :=
  match s with
  | '/' :: '/' :: s => do
    let f ← front false s
    Host.checkOpaque f.host
    let named := f.credentials.any fun c => c.any (· != ':') || 1 < c.length
    if f.host.isEmpty ∧ (named ∨ ¬f.port.isEmpty) then throw .emptyHost
    let _ ← port? (splitAtFirst (· == '\\') f.port).1
    return ()
  | _ => .ok ()

/-- A file's address may name a host behind two slashes, unless a drive stands there. -/
def checkFile (s : List Char) : Except Fault Unit :=
  match s with
  | a :: b :: s =>
    if Path.isSlash a && Path.isSlash b then
      let host := (splitAtFirst (endsAuthority true) s).1
      if Path.isDrive host || host.isEmpty then .ok () else (Host.parse host).map fun _ => ()
    else .ok ()
  | _ => .ok ()

/-- The address that a text writes. -/
def Address.parse (s : List Char) : Except Fault Address :=
  match scheme? (tidy s) with
  | none => .error .noScheme
  | some (scheme, rest) =>
    let inside := rest.dropWhile Path.isSlash
    if scheme = Scheme.http.name then (hosted .http Scheme.http.defaultPort inside).map .web
    else if scheme = Scheme.https.name then (hosted .https Scheme.https.defaultPort inside).map .web
    else if scheme = ['f', 'i', 'l', 'e'] then (checkFile rest).map fun _ => .foreign scheme
    else if hostedSchemes.any (·.1 == scheme) then
      (hosted .http 0 inside).map fun _ => .foreign scheme
    else (checkForeign rest).map fun _ => .foreign scheme

end QueryAudit.Url
