import GitLogin.Settings.Decode
import GitLogin.Stream
import GitLogin.Text.Utf8

namespace GitLogin

inductive SettingsError
  | io (cause : IoFault)
  | parse
  deriving DecidableEq

def SettingsError.message : SettingsError → String
  | .io cause => "Failed to read config file: " ++ cause.message
  | .parse => "Failed to parse config file"

def SettingsError.chain (e : SettingsError) : List String :=
  e.message :: match e with
    | .io cause => [cause.message]
    | .parse => []

abbrev FileContents := Except IoFault (List UInt8)

def joinPath (base name : String) : String :=
  if base.isEmpty || base.endsWith "/" then base ++ name else base ++ "/" ++ name

namespace Settings

/-- The directory that the environment names counts only if its path starts at the root. -/
def defaultPath (configHome : Option String) (home : String) : String :=
  let base := (configHome.filter (·.startsWith "/")).getD (joinPath home ".config")
  joinPath (joinPath base "credential-prompt") "config.toml"

variable [TomlParser]

def ofText (text : String) : Except SettingsError Settings :=
  match (TomlParser.parse? text).bind ofToml? with
  | some s => .ok s
  | none => .error .parse

def load : FileContents → Except SettingsError Settings
  | .error e => .error (.io e)
  | .ok bytes =>
    match Text.Utf8.decode bytes with
    | none => .error (.io .notUtf8)
    | some text => ofText text

def loadDefault : FileContents → Except SettingsError Settings
  | .error .notFound => .ok {}
  | contents => load contents

end Settings

end GitLogin
