namespace GitLogin.Toml

def isTextChar (c : Char) : Bool := c == '\t' || (0x20 ≤ c.toNat && c.toNat != 0x7F)

def isSpace (c : Char) : Bool := c == ' ' || c == '\t'

structure Quoting where
  quote : Char
  escapes : Bool
  multiline : Bool

inductive Pending
  | nothing
  | escape
  | code (left value : Nat)
  | quotes (count : Nat)
  | closed
  | lineEnd
  | skip
  | skipReturn
  | carriageReturn

inductive Reading
  | more (text : List Char) (pending : Pending)
  | done (text : List Char)
  | failed

def Reading.prepend (text : List Char) : Reading → Reading
  | .more t p => .more (text ++ t) p
  | .done t => .done (text ++ t)
  | .failed => .failed

def hexValue? (c : Char) : Option Nat :=
  if c.isDigit then some (c.toNat - 0x30)
  else if 'a' ≤ c && c ≤ 'f' then some (c.toNat - 0x61 + 10)
  else if 'A' ≤ c && c ≤ 'F' then some (c.toNat - 0x41 + 10)
  else none

namespace Quoting

def plain (q : Quoting) (c : Char) : Reading :=
  if c == q.quote then .more [] (if q.multiline then .quotes 1 else .closed)
  else if q.escapes && c == '\\' then .more [] .escape
  else if q.multiline && c == '\n' then .more [c] .nothing
  else if q.multiline && c == '\r' then .more [] .carriageReturn
  else if isTextChar c then .more [c] .nothing
  else .failed

/-- In a text of several lines, a backslash at the end of a line takes the blanks after it, and
those in front of the next text, out. -/
def escaped (q : Quoting) (c : Char) : Reading :=
  match c with
  | 'b' => .more ['\x08'] .nothing
  | 't' => .more ['\t'] .nothing
  | 'n' => .more ['\n'] .nothing
  | 'f' => .more ['\x0c'] .nothing
  | 'r' => .more ['\r'] .nothing
  | '"' => .more ['"'] .nothing
  | '\\' => .more ['\\'] .nothing
  | 'u' => .more [] (.code 4 0)
  | 'U' => .more [] (.code 8 0)
  | c =>
    if !q.multiline then .failed
    else if isSpace c then .more [] .lineEnd
    else if c == '\n' then .more [] .skip
    else if c == '\r' then .more [] .skipReturn
    else .failed

def coded (left value : Nat) (c : Char) : Reading :=
  match hexValue? c with
  | none => .failed
  | some d =>
    if 1 < left then .more [] (.code (left - 1) (16 * value + d))
    else if (16 * value + d).isValidChar then .more [.ofNat (16 * value + d)] .nothing
    else .failed

def feed (q : Quoting) (p : Pending) (c : Char) : Reading :=
  match p with
  | .nothing => q.plain c
  | .escape => q.escaped c
  | .code left value => coded left value c
  | .quotes n =>
    if c == q.quote && n < 5 then .more [] (.quotes (n + 1))
    else if 3 ≤ n then .done (List.replicate (n - 3) q.quote)
    else (q.plain c).prepend (List.replicate n q.quote)
  | .closed => .done []
  | .lineEnd =>
    if isSpace c then .more [] .lineEnd
    else if c == '\n' then .more [] .skip
    else if c == '\r' then .more [] .skipReturn
    else .failed
  | .skip =>
    if isSpace c || c == '\n' then .more [] .skip
    else if c == '\r' then .more [] .skipReturn
    else q.plain c
  | .skipReturn => if c == '\n' then .more [] .skip else .failed
  | .carriageReturn => if c == '\n' then .more ['\n'] .nothing else .failed

def atEnd (q : Quoting) : Pending → Option (List Char)
  | .closed => some []
  | .quotes n => if 3 ≤ n then some (List.replicate (n - 3) q.quote) else none
  | _ => none

def scan (q : Quoting) : Pending → List Char → Option (List Char × List Char)
  | p, [] => (q.atEnd p).map fun text => (text, [])
  | p, c :: cs =>
    match q.feed p c with
    | .more text p => (scan q p cs).map fun (t, rest) => (text ++ t, rest)
    | .done text => some (text, c :: cs)
    | .failed => none

def read (q : Quoting) (cs : List Char) : Option (String × List Char) :=
  (q.scan .nothing cs).map fun (text, rest) => (.ofList text, rest)

end Quoting

def oneLine? : List Char → Option (String × List Char)
  | '"' :: cs => Quoting.read ⟨'"', true, false⟩ cs
  | '\'' :: cs => Quoting.read ⟨'\'', false, false⟩ cs
  | _ => none

def dropNewline : List Char → List Char
  | '\n' :: cs | '\r' :: '\n' :: cs => cs
  | cs => cs

def quoted? : List Char → Option (String × List Char)
  | '"' :: '"' :: '"' :: cs => Quoting.read ⟨'"', true, true⟩ (dropNewline cs)
  | '\'' :: '\'' :: '\'' :: cs => Quoting.read ⟨'\'', false, true⟩ (dropNewline cs)
  | cs => oneLine? cs

end GitLogin.Toml
