import GitLogin.Text.Trim

namespace GitLogin.CommandLine

structure Options where
  config : Option String := none
  nonInteractive : Bool := false
  verbosity : Nat := 0
  deriving DecidableEq

inductive Command
  | get
  | store
  | erase
  | askpass (words : List String)
  deriving DecidableEq

inductive Stop
  | help
  | version
  | usage
  deriving DecidableEq

structure Scope where
  words : Bool
  version : Bool

inductive Flag
  | config
  | nonInteractive
  | verbose
  | help
  | version
  deriving DecidableEq

namespace Flag

def ofLong? : String → Option Flag
  | "config" => some .config
  | "non-interactive" => some .nonInteractive
  | "verbose" => some .verbose
  | "help" => some .help
  | "version" => some .version
  | _ => none

def ofShort? : Char → Option Flag
  | 'c' => some .config
  | 'v' => some .verbose
  | 'h' => some .help
  | 'V' => some .version
  | _ => none

end Flag

def Options.setConfig (o : Options) (path : String) : Except Stop Options :=
  if path.isEmpty || o.config.isSome then .error .usage else .ok { o with config := some path }

def Options.set (o : Options) (scope : Scope) : Flag → Except Stop Options
  | .config => .error .usage
  | .nonInteractive => if o.nonInteractive then .error .usage else .ok { o with nonInteractive := true }
  | .verbose => .ok { o with verbosity := o.verbosity + 1 }
  | .help => .error .help
  | .version => .error (if scope.version then .version else .usage)

def isValue (word : String) : Bool := word == "-" || !word.startsWith "-"

/-- Letters after one hyphen. What follows a `c` is its value; `true` when that is missing. -/
def setLetters (scope : Scope) (o : Options) : List Char → Except Stop (Options × Bool)
  | [] => .ok (o, false)
  | c :: cs =>
    match Flag.ofShort? c with
    | none => .error .usage
    | some .config =>
      match cs with
      | [] => .ok (o, true)
      | '=' :: path => (o.setConfig (.ofList path)).map (·, false)
      | path => (o.setConfig (.ofList path)).map (·, false)
    | some flag =>
      match o.set scope flag with
      | .error e => .error e
      | .ok o => setLetters scope o cs

def setLong (scope : Scope) (o : Options) (word : String) : Except Stop (Options × Bool) :=
  match Text.cut? '=' word with
  | some (name, value) =>
    if Flag.ofLong? name = some .config then (o.setConfig value).map (·, false) else .error .usage
  | none =>
    match Flag.ofLong? word with
    | none => .error .usage
    | some .config => .ok (o, true)
    | some flag => (o.set scope flag).map (·, false)

def setOption (scope : Scope) (o : Options) (word : String) : Except Stop (Options × Bool) :=
  match Text.afterStart? "--" word with
  | some name => setLong scope o name
  | none => setLetters scope o (word.toList.drop 1)

def isOption (word : String) : Bool := word.startsWith "-" && word != "-"

def addWord (scope : Scope) (words : List String) (word : String) : Except Stop (List String) :=
  if scope.words then .ok (words ++ [word]) else .error .usage

def read (scope : Scope) : (pending : Bool) → Options → List String → List String →
    Except Stop (Options × List String)
  | pending, o, words, [] => if pending then .error .usage else .ok (o, words)
  | true, o, words, word :: rest =>
    if isValue word then
      match o.setConfig word with
      | .error e => .error e
      | .ok o => read scope false o words rest
    else .error .usage
  | false, o, words, word :: rest =>
    if word == "--" then
      match rest.foldlM (addWord scope) words with
      | .error e => .error e
      | .ok words => .ok (o, words)
    else if isOption word then
      match setOption scope o word with
      | .error e => .error e
      | .ok (o, pending) => read scope pending o words rest
    else
      match addWord scope words word with
      | .error e => .error e
      | .ok words => read scope false o words rest

def commandNames : List String := ["get", "store", "erase", "askpass", "help"]

def helpStop : List String → Stop
  | [] => .help
  | [name] => if commandNames.contains name then .help else .usage
  | _ => .usage

def plain (command : Command) (args : List String) : Except Stop (Options × Command) :=
  (read ⟨false, false⟩ false {} [] args).map fun (o, _) => (o, command)

def parse (args : List String) : Except Stop (Options × Command) :=
  match args with
  | "get" :: args => plain .get args
  | "store" :: args => plain .store args
  | "erase" :: args => plain .erase args
  | "help" :: args => .error (helpStop args)
  | "askpass" :: args =>
    (read ⟨true, false⟩ false {} [] args).map fun (o, words) => (o, .askpass words)
  | args => (read ⟨true, true⟩ false {} [] args).map fun (o, words) => (o, .askpass words)

end GitLogin.CommandLine
