namespace GitLogin

inductive Provider
  | gitHub
  | bitbucket
  | other
  deriving DecidableEq

def Provider.ofHost : Option String → Provider
  | some "github.com" => .gitHub
  | some "bitbucket.org" => .bitbucket
  | _ => .other

/-- The `uri` is for display only. A `keyFile` asks for the passphrase of an SSH key. -/
structure Remote where
  uri : String
  host : Option String := none
  path : Option String := none
  keyFile : Option String := none
  deriving DecidableEq

namespace Remote

def provider (r : Remote) : Provider := .ofHost r.host

def isKey (r : Remote) : Bool := r.keyFile.isSome

end Remote

end GitLogin
