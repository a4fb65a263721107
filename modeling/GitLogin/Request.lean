import GitLogin.Credential
import GitLogin.Remote
import GitLogin.Stream.Source
import GitLogin.Url

/-!
What Git asks a credential helper: lines of `key=value` up to a blank one or the end of the
input.
-/

namespace GitLogin

inductive Part
  | username
  | password
  deriving DecidableEq

def Part.name : Part → String
  | .username => "username"
  | .password => "password"

inductive HelperError
  | io (cause : IoFault)
  | malformedLine (number : Nat)
  | invalidUrl (cause : UrlError)
  | unsendable (part : Part)
  deriving DecidableEq

namespace HelperError

def message : HelperError → String
  | .io cause => "credential helper I/O failed: " ++ cause.message
  | .malformedLine n =>
    "malformed credential attribute on line " ++ toString n ++ ", expected key=value"
  | .invalidUrl cause => "invalid url attribute: " ++ cause.message
  | .unsendable part => part.name ++ " contains a line break or NUL and cannot be sent to git"

end HelperError

/-- The host may carry a port, and the path has no slash in front. -/
structure Request where
  protocol : Option String := none
  host : Option String := none
  path : Option String := none
  username : Option String := none
  password : Option String := none
  deriving DecidableEq

namespace Request

def isSlash (c : Char) : Bool := c == '/'

def hostAndPort (u : Url) : Option String :=
  u.host.map fun host => host ++ (u.port.map fun port => ":" ++ toString port).getD ""

/-- Takes what a URL has; what it lacks stays as it was. -/
def applyUrl (r : Request) (u : Url) : Request where
  protocol := some u.scheme
  host := hostAndPort u <|> r.host
  path := Text.nonEmpty? (Text.dropStart isSlash u.path) <|> r.path
  username := Text.nonEmpty? u.username <|> r.username
  password := u.password <|> r.password

def apply [UrlParser] (r : Request) (key value : String) : Except HelperError Request :=
  match key with
  | "protocol" => .ok { r with protocol := some value }
  | "host" => .ok { r with host := some value }
  | "path" => .ok { r with path := some value }
  | "username" => .ok { r with username := some value }
  | "password" => .ok { r with password := some value }
  | "url" => (UrlParser.parse value).mapError .invalidUrl |>.map r.applyUrl
  | _ => .ok r

def readLines [UrlParser] (broken : Bool) : (number : Nat) → Request → List (Option String) →
    Except HelperError Request
  | _, r, [] => if broken then .error (.io .readFailed) else .ok r
  | _, _, none :: _ => .error (.io .notUtf8)
  | number, r, some line :: lines =>
    let entry := Text.chomp line
    if entry.isEmpty then .ok r
    else
      match Text.cut? '=' entry with
      | none => .error (.malformedLine number)
      | some (key, value) =>
        match r.apply key value with
        | .error e => .error e
        | .ok r => readLines broken (number + 1) r lines

def read [UrlParser] (s : Source) : Except HelperError Request := readLines s.broken 1 {} s.lines

def ofUrl [UrlParser] (text : String) : Except HelperError Request :=
  (UrlParser.parse text).mapError .invalidUrl |>.map fun u => applyUrl {} u

def bareHost (host : String) : String :=
  match Text.afterStart? "[" host with
  | some rest => ((Text.cut? ']' rest).map Prod.fst).getD rest
  | none =>
    match Text.cutLast? ':' host with
    | some (name, port) => if !port.isEmpty && port.toList.all Char.isDigit then name else host
    | none => host

def rootedPath (r : Request) : Option String :=
  (r.path.bind fun p => Text.nonEmpty? (Text.dropStart isSlash p)).map ("/" ++ ·)

def remote (r : Request) : Remote where
  uri := r.protocol.getD "https" ++ "://" ++ r.host.getD "" ++ r.rootedPath.getD ""
  host := Text.nonEmpty? (bareHost (r.host.getD ""))
  path := r.rootedPath

def prior (r : Request) : Option Credential :=
  if r.username.isNone && r.password.isNone then none else some ⟨r.username, r.password⟩

def describe (r : Request) : String :=
  Text.record "HelperRequest"
    [("protocol", Text.optional r.protocol), ("host", Text.optional r.host),
     ("path", Text.optional r.path), ("username", Text.optional r.username),
     ("password", Text.optional (r.password.map fun _ => Text.redacted))]

end Request

def isUnsendable (c : Char) : Bool := c == '\n' || c == '\r' || c == '\x00'

def Part.send {ω : Type} [TextWriter ω] (p : Part) (value : String) (w : ω) :
    Except HelperError Unit × ω :=
  if value.toList.any isUnsendable then (.error (.unsendable p), w)
  else
    match TextWriter.write (p.name ++ "=" ++ value ++ "\n") w with
    | (.error e, w) => (.error (.io e), w)
    | (.ok (), w) => (.ok (), w)

def Part.sendAny {ω : Type} [TextWriter ω] (p : Part) (value : Option String) (w : ω) :
    Except HelperError Unit × ω :=
  match value with
  | none => (.ok (), w)
  | some value => p.send value w

/-- Answers Git with the parts of a credential that are present, the username first. -/
def Credential.send {ω : Type} [TextWriter ω] (c : Credential) (w : ω) :
    Except HelperError Unit × ω :=
  match Part.username.sendAny c.username w with
  | (.error e, w) => (.error e, w)
  | (.ok (), w) =>
    match Part.password.sendAny c.secret w with
    | (.error e, w) => (.error e, w)
    | (.ok (), w) =>
      match TextWriter.flush w with
      | (.error e, w) => (.error (.io e), w)
      | (.ok (), w) => (.ok (), w)

end GitLogin
