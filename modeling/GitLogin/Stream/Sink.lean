import GitLogin.Stream
import GitLogin.Text.Utf8

namespace GitLogin

/-- With a `limit`, only so many bytes are ever taken. -/
structure Sink where
  written : List UInt8 := []
  limit : Option Nat := none
  flushFails : Bool := false
  deriving DecidableEq

namespace Sink

def write (text : String) (s : Sink) : Except IoFault Unit × Sink :=
  let all := s.written ++ Text.Utf8.encode text
  match s.limit with
  | none => (.ok (), { s with written := all })
  | some n =>
    (if all.length ≤ n then .ok () else .error .pipeClosed,
      { s with written := all.take n })

def flush (s : Sink) : Except IoFault Unit × Sink :=
  (if s.flushFails then .error .flushFailed else .ok (), s)

instance : TextWriter Sink := ⟨write, flush⟩

end Sink

end GitLogin
