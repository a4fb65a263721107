namespace GitLogin

inductive IoFault
  | notUtf8
  | notFound
  | isDirectory
  | noTerminal
  | endOfInput
  | readFailed
  | pipeClosed
  | flushFailed
  | other (message : String)
  deriving DecidableEq

def IoFault.message : IoFault → String
  | .notUtf8 => "stream did not contain valid UTF-8"
  | .notFound => "No such file or directory (os error 2)"
  | .isDirectory => "Is a directory (os error 21)"
  | .noTerminal => "No such device or address (os error 6)"
  | .endOfInput => "unexpected end of file"
  | .readFailed => "read failed"
  | .pipeClosed => "pipe closed"
  | .flushFailed => "flush failed"
  | .other message => message

class LineReader (ρ : Type) where
  /-- The next line with its newline, if it has one; nothing at the end of the input. -/
  readLine : ρ → Except IoFault (Option String) × ρ

/-- Whatever reads a line that is typed unseen. It takes the line that any reader would. -/
class SecretReader (ρ : Type) [LineReader ρ] where
  readSecret : ρ → Except IoFault String × ρ
  snd_readSecret : ∀ r, (readSecret r).2 = (LineReader.readLine r).2
  exists_line : ∀ r secret, (readSecret r).1 = .ok secret →
    ∃ line, (LineReader.readLine r).1 = .ok (some line)

class TextWriter (ω : Type) where
  write : String → ω → Except IoFault Unit × ω
  flush : ω → Except IoFault Unit × ω

export LineReader (readLine)

def TextWriter.send {ω : Type} [TextWriter ω] (text : String) (w : ω) : Except IoFault Unit × ω :=
  match write text w with
  | (.error e, w) => (.error e, w)
  | (.ok (), w) => flush w

end GitLogin
