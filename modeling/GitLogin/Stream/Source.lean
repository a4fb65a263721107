import GitLogin.Stream
import GitLogin.Text.Utf8

namespace GitLogin

/-- `none` stands for a line that is not UTF-8. In a `broken` source a read fails where the input
of another ends. -/
structure Source where
  lines : List (Option String)
  broken : Bool
  deriving DecidableEq

namespace Source

def newline : UInt8 := 10

def cutLines : List UInt8 → List (List UInt8)
  | [] => []
  | b :: bs =>
    if b = newline then [b] :: cutLines bs
    else
      match cutLines bs with
      | [] => [[b]]
      | l :: ls => (b :: l) :: ls

def ofBytes (bytes : List UInt8) (broken : Bool) : Source where
  lines := ((cutLines bytes).filter fun l => !broken || l.getLast? == some newline).map Text.Utf8.decode
  broken := broken

def ofString (text : String) : Source := ofBytes (Text.Utf8.encode text) false

def next : Source → Except IoFault (Option String) × Source
  | ⟨[], broken⟩ => (if broken then .error .readFailed else .ok none, ⟨[], broken⟩)
  | ⟨none :: ls, broken⟩ => (.error .notUtf8, ⟨ls, broken⟩)
  | ⟨some l :: ls, broken⟩ => (.ok (some l), ⟨ls, broken⟩)

instance : LineReader Source := ⟨next⟩

end Source

end GitLogin
