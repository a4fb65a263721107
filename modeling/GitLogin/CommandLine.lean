import GitLogin.CommandLine.Arguments
import GitLogin.Session
import GitLogin.Settings.File
import GitLogin.Stream.Sink
import GitLogin.Stream.Unseen
import GitLogin.Surface.Terminal
import GitLogin.Toml.Parser
import GitLogin.Url.Parser

namespace GitLogin.CommandLine

/-- What the program finds around it. Without a `terminal` nobody can be asked. -/
structure Surroundings where
  input : Source
  terminal : Option Source
  terminalPrompt : Option String
  file : String → FileContents
  defaultFile : FileContents

inductive Problem
  | settings (path : Option String) (cause : SettingsError)
  | run (cause : Failure)

def settingsTitle : Option String → String
  | none => "Failed to load config"
  | some path => "Failed to load config from " ++ path

namespace Problem

def chain : Problem → List String
  | .settings path cause => settingsTitle path :: cause.chain
  | .run cause => cause.chain

def report (p : Problem) : String := "Error: " ++ ": ".intercalate p.chain

end Problem

structure Ending where
  code : Nat
  output : String
  report : Option String := none
  screen : Sink := {}

def loadSettings (s : Surroundings) : Option String → Except Problem Settings
  | some path => (Settings.load (s.file path)).mapError (.settings (some path))
  | none => (Settings.loadDefault s.defaultFile).mapError (.settings none)

def openTerminal (s : Surroundings) : Opening (Terminal Source Sink) := fun settings =>
  match s.terminal with
  | none => .error (.io .noTerminal)
  | some input => .ok (.new input {} settings.maxAttempts true)

def outputText (w : Sink) : String := (Text.Utf8.decode w.written).getD ""

/-- A run that did not answer ends with code 1 even if nothing failed. -/
def Ending.of {α : Type} (succeeded : α → Bool) (r : Run (Terminal Source Sink) Sink α) : Ending :=
  let screen := (r.surface.map Terminal.output).getD {}
  match r.result with
  | .error e => ⟨1, outputText r.output, some (Problem.run e).report, screen⟩
  | .ok a => ⟨if succeeded a then 0 else 1, outputText r.output, none, screen⟩

def ignore (operation : String) (s : Surroundings) : Ending :=
  match Session.ignore operation s.input with
  | .error e => ⟨1, "", some (Problem.run e).report, {}⟩
  | .ok () => ⟨0, "", none, {}⟩

def withSettings (s : Surroundings) (o : Options) (k : Settings → Ending) : Ending :=
  match loadSettings s o.config with
  | .error p => ⟨1, "", some p.report, {}⟩
  | .ok settings => k settings

def question (words : List String) : String :=
  if words.isEmpty then "Password:" else " ".intercalate words

def execute (s : Surroundings) (o : Options) (command : Command) : Ending :=
  let mode := Mode.detect o.nonInteractive s.terminalPrompt
  match command with
  | .store => ignore "store" s
  | .erase => ignore "erase" s
  | .get => withSettings s o fun settings =>
    .of (fun _ => true)
      (Session.get Terminal.surface s.input ({} : Sink) settings mode (openTerminal s))
  | .askpass words => withSettings s o fun settings =>
    .of id
      (Session.askpass Terminal.surface (question words) ({} : Sink) settings mode (openTerminal s))

def name : String := "git-credential-prompt"

def versionText : String := name ++ " 0.1.0\n"

def helpText : String :=
  "Interactive credential prompt for Git\n\n" ++
  "Usage: " ++ name ++ " [OPTIONS] [PROMPT]...\n" ++
  "       " ++ name ++ " <COMMAND>\n\n" ++
  "Commands:\n" ++
  "  get      Credential helper: prompt for a credential and print it\n" ++
  "  store    Credential helper: accepted and ignored\n" ++
  "  erase    Credential helper: accepted and ignored\n" ++
  "  askpass  Askpass: answer a Git or OpenSSH prompt\n" ++
  "  help     Print this message\n\n" ++
  "Options:\n" ++
  "  -c, --config <PATH>    Path to config file\n" ++
  "      --non-interactive  Never prompt; fail instead\n" ++
  "  -v, --verbose...       Increase log verbosity\n" ++
  "  -h, --help             Print help\n" ++
  "  -V, --version          Print version\n"

def run (s : Surroundings) (args : List String) : Ending :=
  match parse args with
  | .error .help => ⟨0, helpText, none, {}⟩
  | .error .version => ⟨0, versionText, none, {}⟩
  | .error .usage => ⟨2, "", some "Error: the arguments do not make a command", {}⟩
  | .ok (o, command) => execute s o command

end GitLogin.CommandLine
