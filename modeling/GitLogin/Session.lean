import GitLogin.Prompt
import GitLogin.Question

/-!
One run of the program as Git starts it: a credential helper that gets, or ignores what it is
told, or an askpass program that answers one question.
-/

namespace GitLogin

inductive Failure
  | promptingDisabled (uri : String) (mode : Mode)
  | openingSurface (cause : SurfaceFault)
  | misuse (cause : Misuse)
  | readingCredential (cause : HelperError)
  | readingIgnored (operation : String) (cause : HelperError)
  | writingCredential (cause : HelperError)
  | writingAnswer (cause : IoFault)
  | flushingAnswer (cause : IoFault)
  deriving DecidableEq

def SurfaceFault.chain (e : SurfaceFault) : List String :=
  e.message :: match e with
    | .io cause => [cause.message]
    | .inputClosed | .notShown | .other _ => []

def HelperError.chain (e : HelperError) : List String :=
  e.message :: match e with
    | .io cause => [cause.message]
    | .invalidUrl cause => [cause.message]
    | .malformedLine _ | .unsendable _ => []

def Failure.chain : Failure → List String
  | .promptingDisabled uri mode =>
    ["Credentials for " ++ uri ++ " are required but prompting is disabled (" ++ mode.name ++
      " execution)"]
  | .openingSurface cause => "Failed to open prompt surface" :: cause.chain
  | .misuse cause => [cause.message]
  | .readingCredential cause => "Failed to read credential request" :: cause.chain
  | .readingIgnored operation cause => ("Failed to read " ++ operation ++ " request") :: cause.chain
  | .writingCredential cause => "Failed to write credential" :: cause.chain
  | .writingAnswer cause => ["Failed to write askpass answer", cause.message]
  | .flushingAnswer cause => ["Failed to flush askpass answer", cause.message]

/-- Nobody is there if the user said so, or if Git forbids prompts on the terminal. -/
def Mode.detect (nonInteractive : Bool) (terminalPrompt : Option String) : Mode :=
  if nonInteractive || terminalPrompt.map Text.trim == some "0" then .automated else .interactive

abbrev Opening (σ : Type) := Settings → Except SurfaceFault σ

structure Run (σ ω α : Type) where
  result : Except Failure α
  output : ω
  surface : Option σ

namespace Session

variable {σ ω : Type}

def promptWith (S : Surface σ) (settings : Settings) (mode : Mode) (r : Remote)
    (prior : Option Credential) (opening : Opening σ) : Except Failure Outcome × Option σ :=
  if mode.isInteractive then
    match opening settings with
    | .error e => (.error (.openingSurface e), none)
    | .ok s =>
      match Prompt.ask S mode r prior settings s with
      | .error e => (.error (.misuse e), some s)
      | .ok (outcome, s) => (.ok outcome, some s)
  else (.error (.promptingDisabled r.uri mode), none)

variable [UrlParser] [TextWriter ω]

def get (S : Surface σ) (input : Source) (output : ω) (settings : Settings) (mode : Mode)
    (opening : Opening σ) : Run σ ω Unit :=
  match Request.read input with
  | .error e => ⟨.error (.readingCredential e), output, none⟩
  | .ok request =>
    match promptWith S settings mode request.remote request.prior opening with
    | (.error e, s) => ⟨.error e, output, s⟩
    | (.ok .declined, s) => ⟨.ok (), output, s⟩
    | (.ok (.confirmed c), s) =>
      match c.send output with
      | (.error e, output) => ⟨.error (.writingCredential e), output, s⟩
      | (.ok (), output) => ⟨.ok (), output, s⟩

def ignore (operation : String) (input : Source) : Except Failure Unit :=
  match Request.read input with
  | .error e => .error (.readingIgnored operation e)
  | .ok _ => .ok ()

def answer (text : String) (w : ω) : Except Failure Unit × ω :=
  match TextWriter.write text w with
  | (.error e, w) => (.error (.writingAnswer e), w)
  | (.ok (), w) =>
    match TextWriter.flush w with
    | (.error e, w) => (.error (.flushingAnswer e), w)
    | (.ok (), w) => (.ok (), w)

def answered (text : String) (output : ω) (s : Option σ) : Run σ ω Bool :=
  match answer text output with
  | (.error e, output) => ⟨.error e, output, s⟩
  | (.ok (), output) => ⟨.ok true, output, s⟩

/-- Tells whether the question was answered. One for a username is never put to the user. -/
def askpass (S : Surface σ) (question : String) (output : ω) (settings : Settings) (mode : Mode)
    (opening : Opening σ) : Run σ ω Bool :=
  let q := Question.parse question
  if q.isUsername then
    match q.knownUsername with
    | none => ⟨.ok false, output, none⟩
    | some username => answered username output none
  else
    match promptWith S settings mode q.remote q.prior opening with
    | (.error e, s) => ⟨.error e, output, s⟩
    | (.ok .declined, s) => ⟨.ok false, output, s⟩
    | (.ok (.confirmed c), s) => answered (c.secret.getD "") output s

end Session

end GitLogin
