namespace GitLogin

inductive Wording
  | gitHubNote
  | bitbucketNote
  | otherNote
  | logInTo (uri : String)
  | keyPassword (file : String)
  deriving DecidableEq

namespace Wording

def text : Wording → String
  | .gitHubNote =>
    "Use a personal access token with the \"repo\" scope instead of your password."
  | .bitbucketNote =>
    "If two-step verification is enabled, use an app password instead of your account password."
  | .otherNote =>
    "If your Git provider requires two-factor authentication, use an access token instead of your password."
  | .logInTo uri => "Log in to " ++ uri
  | .keyPassword file => "Enter your password for the SSH key \"" ++ file ++ "\""

def usernameLabel : String := "Username"

def passwordLabel : String := "Password"

def tokenLabel : String := "Token"

end Wording

end GitLogin
