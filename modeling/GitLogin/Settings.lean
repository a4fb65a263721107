import GitLogin.Remote
import GitLogin.Text.Trim

namespace GitLogin

structure Settings where
  title : String := "Settings Repository"
  uriWidth : Nat := 50
  maxAttempts : Nat := 3
  gitHub : String := "x-oauth-basic"
  bitbucket : String := "x-oauth-basic"
  other : String := "x-oauth-basic"
  deriving DecidableEq

namespace Settings

def placeholder (s : Settings) : Provider → String
  | .gitHub => s.gitHub
  | .bitbucket => s.bitbucket
  | .other => s.other

def placeholder? (s : Settings) (p : Provider) : Option String := Text.nonEmpty? (s.placeholder p)

end Settings

end GitLogin
