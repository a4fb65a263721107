import GitLogin.Form.Layout

namespace GitLogin

structure Fields where
  username : String
  secret : String
  deriving DecidableEq

namespace Fields

def seed (l : Layout) (prior : Option Credential) : Fields where
  username := l.defaultUsername.getD ""
  secret := (prior.bind Credential.secret).getD ""

def resolvedUsername (f : Fields) (r : Remote) : Option String :=
  match r.keyFile with
  | some file => Text.nonBlank? (Text.baseName file)
  | none => Text.nonBlank? f.username

/-- A login name without a secret gets the placeholder of its provider. -/
def resolve (f : Fields) (r : Remote) (s : Settings) : Credential :=
  let username := f.resolvedUsername r
  ⟨username, Text.nonEmpty? f.secret <|> username.bind fun _ => s.placeholder? r.provider⟩

end Fields

end GitLogin
