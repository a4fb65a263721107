import GitLogin.Text.Record

namespace GitLogin

structure Credential where
  username : Option String := none
  secret : Option String := none
  deriving DecidableEq

namespace Credential

def describe (c : Credential) : String :=
  Text.record "Credential"
    [("username", Text.optional c.username),
     ("secret", Text.optional (c.secret.map fun _ => Text.redacted))]

end Credential

def describeSecret (secret : String) : String :=
  Text.record "SecretBuffer"
    [("contents", Text.quoted Text.redacted), ("len", toString secret.length)]

inductive Outcome
  | confirmed (credential : Credential)
  | declined
  deriving DecidableEq

namespace Outcome

def credential? : Outcome → Option Credential
  | .confirmed c => some c
  | .declined => none

def isConfirmed (o : Outcome) : Bool := o.credential?.isSome

end Outcome

inductive Mode
  | interactive
  | automated
  deriving DecidableEq

namespace Mode

def name : Mode → String
  | .interactive => "interactive"
  | .automated => "automated"

def isInteractive (m : Mode) : Bool := m = .interactive

end Mode

end GitLogin
