import GitLogin.Request
import GitLogin.Form.Layout

namespace GitLogin

/-- The URL or key file stands in quotes in the question; any other question is kept as text. -/
inductive Question
  | username (url : String)
  | password (url : String)
  | passphrase (keyFile : String)
  | unknown (text : String)
  deriving DecidableEq

namespace Question

def isColon (c : Char) : Bool := c == ':'

def trimQuestion (s : String) : String :=
  Text.trim (Text.dropEnd isColon (Text.dropEnd Text.isBlank s))

def quoted? (s : String) : Option String := do
  let (_, rest) ← Text.cut? '\'' s
  let (quoted, _) ← Text.cut? '\'' rest
  Text.nonEmpty? quoted

def startsWith (start s : String) : Bool :=
  start.toList.isPrefixOf (s.toList.map Char.toLower)

def usernameStart : String := "username for "

def passwordStart : String := "password for "

def passphraseStart : String := "enter passphrase for "

def keyFile? (s : String) : Option String :=
  match quoted? s with
  | some path => some path
  | none =>
    let rest := String.ofList (s.toList.drop passphraseStart.length)
    Text.nonEmpty? (trimQuestion ((Text.afterStart? "key " rest).getD rest))

def known? (s : String) : Option Question :=
  if startsWith usernameStart s then (quoted? s).map .username
  else if startsWith passwordStart s then (quoted? s).map .password
  else if startsWith passphraseStart s then (keyFile? s).map .passphrase
  else none

def parse (s : String) : Question := (known? s).getD (.unknown (trimQuestion s))

def remote [UrlParser] : Question → Remote
  | .username url | .password url =>
    match Request.ofUrl url with
    | .ok r => r.remote
    | .error _ => { uri := url }
  | .passphrase keyFile => { uri := keyFile, keyFile := some keyFile }
  | .unknown text => { uri := text }

def prior [UrlParser] : Question → Option Credential
  | .username url | .password url =>
    (Request.ofUrl url).toOption.bind fun r => r.username.map fun u => { username := some u }
  | .passphrase _ | .unknown _ => none

def isUsername : Question → Bool
  | .username _ => true
  | _ => false

def knownUsername [UrlParser] (q : Question) : Option String :=
  match q with
  | .username _ => q.remote.defaultUsername q.prior
  | _ => none

end Question

end GitLogin
