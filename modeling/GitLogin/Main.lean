import GitLogin.CommandLine

/-!
The executable. A run is a function of what was typed, so a form on the terminal is shown by
running again with each line that is typed; the screen of a run starts with that of the one
before.
-/

namespace GitLogin.Main

def readFile (path : String) : IO FileContents := do
  try
    return .ok (← IO.FS.readBinFile path).toList
  catch
    | .noFileOrDirectory .. => return .error .notFound
    | e => return .error (.other (toString e))

def readAll (stream : IO.FS.Stream) : IO (List UInt8) := do
  let mut bytes := ByteArray.empty
  let mut chunk ← stream.read 4096
  while !chunk.isEmpty do
    bytes := bytes ++ chunk
    chunk ← stream.read 4096
  return bytes.toList

structure Tty where
  keyboard : IO.FS.Handle
  screen : IO.FS.Handle

def openTty : IO (Option Tty) := do
  try
    return some ⟨← IO.FS.Handle.mk "/dev/tty" .read, ← IO.FS.Handle.mk "/dev/tty" .write⟩
  catch _ => return none

/-- Asks for typed lines for as long as one more line makes a difference, and shows what each run
adds to the screen. -/
partial def converse (tty : Tty) (run : Source → CommandLine.Ending) (typed : String)
    (shown : Nat) : IO CommandLine.Ending := do
  let ending := run (.ofString typed)
  let next := run (.ofString (typed ++ "\n"))
  let screen := ending.screen.written
  tty.screen.write (screen.drop shown).toByteArray
  tty.screen.flush
  if next.screen.written == screen && next.output == ending.output then return ending
  let line ← tty.keyboard.getLine
  if line.isEmpty then return ending
  converse tty run (typed ++ line) screen.length

def start (args : List String) : IO CommandLine.Ending := do
  let input ← match args.head? with
    | some "get" | some "store" | some "erase" => readAll (← IO.getStdin)
    | _ => pure []
  let path := Settings.defaultPath (← IO.getEnv "XDG_CONFIG_HOME") ((← IO.getEnv "HOME").getD "")
  let defaultFile ← readFile path
  let named ← match CommandLine.parse args with
    | .ok ({ config := some path, .. }, _) => readFile path
    | _ => pure (.error .notFound)
  let terminalPrompt ← IO.getEnv "GIT_TERMINAL_PROMPT"
  let run := fun terminal => CommandLine.run
    { input := .ofBytes input false, terminal, terminalPrompt, file := fun _ => named, defaultFile }
    args
  match ← openTty with
  | none => return run none
  | some tty => converse tty (fun typed => run (some typed)) "" 0

end GitLogin.Main

def main (args : List String) : IO UInt32 := do
  let ending ← GitLogin.Main.start args
  (← IO.getStdout).putStr ending.output
  if let some report := ending.report then (← IO.getStderr).putStrLn report
  return ending.code.toUInt32
