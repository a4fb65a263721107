import GitLogin.Credential
import GitLogin.Remote
import GitLogin.Settings
import GitLogin.Text.BaseName
import GitLogin.Text.Elide
import GitLogin.Wording

namespace GitLogin

/-- The login name to start with: the known one, else for a GitHub remote the owner of the
repository, which is the first segment of its path. A path that starts with a wider character
than one byte has no such segment. -/
def Remote.defaultUsername (r : Remote) (prior : Option Credential) : Option String :=
  match prior.bind Credential.username with
  | some username => some username
  | none =>
    if r.provider ≠ .gitHub ∨ r.isKey then none
    else
      match r.path.map String.toList with
      | some (c :: rest) =>
        if c.utf8Size = 1 then Text.nonEmpty? (.ofList (rest.takeWhile (· != '/'))) else none
      | _ => none

inductive Field
  | username
  | secret
  deriving DecidableEq

structure UsernameField where
  label : String
  initial : String
  deriving DecidableEq

structure Layout where
  title : String
  message : String
  note : Option String
  provider : Provider
  isKey : Bool
  usernameField : Option UsernameField
  secretLabel : String
  secretPrefilled : Bool
  defaultUsername : Option String
  deriving DecidableEq

namespace Layout

def noteFor : Provider → Wording
  | .gitHub => .gitHubNote
  | .bitbucket => .bitbucketNote
  | .other => .otherNote

def headerFor (r : Remote) (s : Settings) : Wording :=
  match r.keyFile with
  | none => .logInTo (Text.elide s.uriWidth r.uri)
  | some file => .keyPassword (Text.baseName file)

def of (r : Remote) (prior : Option Credential) (s : Settings) : Layout where
  title := s.title
  message := (headerFor r s).text
  note := if r.isKey then none else some (noteFor r.provider).text
  provider := r.provider
  isKey := r.isKey
  usernameField :=
    if r.isKey ∨ r.provider = .gitHub then none
    else some ⟨Wording.usernameLabel, (r.defaultUsername prior).getD ""⟩
  secretLabel :=
    if ¬r.isKey ∧ r.provider = .gitHub then Wording.tokenLabel else Wording.passwordLabel
  secretPrefilled := (prior.bind Credential.secret).isSome
  defaultUsername := r.defaultUsername prior

def focus (l : Layout) : Field := if l.usernameField.isSome then .username else .secret

end Layout

end GitLogin
