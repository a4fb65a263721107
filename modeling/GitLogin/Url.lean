import GitLogin.Text.Trim

namespace GitLogin

/-- User information is as it stands in the URL, percent-encoded. The query and the fragment are
left out, and so is the port that a scheme has anyway. -/
structure Url where
  scheme : String
  username : String := ""
  password : Option String := none
  host : Option String := none
  port : Option Nat := none
  path : String
  deriving DecidableEq

inductive UrlError
  | relative
  | emptyHost
  | port
  | domainName
  | ipv4
  | ipv6
  | hostCharacter
  deriving DecidableEq

def UrlError.message : UrlError → String
  | .relative => "relative URL without a base"
  | .emptyHost => "empty host"
  | .port => "invalid port number"
  | .domainName => "invalid international domain name"
  | .ipv4 => "invalid IPv4 address"
  | .ipv6 => "invalid IPv6 address"
  | .hostCharacter => "invalid domain character"

/-- Whatever reads a text as a URL. -/
class UrlParser where
  parse : String → Except UrlError Url

namespace Url

/-- Special schemes always have a host and take backslashes for slashes; of these, `file` has
rules of its own. -/
inductive SchemeKind
  | file
  | special
  | general
  deriving DecidableEq

def SchemeKind.of (scheme : String) : SchemeKind :=
  if scheme = "file" then .file
  else if ["http", "https", "ws", "wss", "ftp"].contains scheme then .special
  else .general

def SchemeKind.isSpecial (k : SchemeKind) : Bool := k ≠ .general

def defaultPort (scheme : String) : Option Nat :=
  match scheme with
  | "http" | "ws" => some 80
  | "https" | "wss" => some 443
  | "ftp" => some 21
  | _ => none

def isSlash (k : SchemeKind) (c : Char) : Bool := c == '/' || (k.isSpecial && c == '\\')

def endsPath (c : Char) : Bool := c == '?' || c == '#'

def endsAuthority (k : SchemeKind) (c : Char) : Bool := isSlash k c || endsPath c

end Url

end GitLogin
