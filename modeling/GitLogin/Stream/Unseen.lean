import GitLogin.Stream.Source

namespace GitLogin.Source

/-- What an unseen line stands for: it has to end in a newline, of which a carriage return is
part, and an erase-line character drops what was typed before it. -/
def unseen (line : String) : Except IoFault String :=
  match line.toList.reverse with
  | '\n' :: '\r' :: typed | '\n' :: typed => .ok (.ofList (typed.takeWhile (· != '\x15')).reverse)
  | _ => .error .endOfInput

def nextSecret (s : Source) : Except IoFault String × Source :=
  (s.next.1.bind fun line => unseen (line.getD ""), s.next.2)

instance : SecretReader Source where
  readSecret := nextSecret
  snd_readSecret _ := rfl
  exists_line s secret h := by
    simp only [nextSecret] at h
    change ∃ line, s.next.1 = .ok (some line)
    cases hline : s.next.1 with
    | error e => simp [hline, Except.bind] at h
    | ok line =>
      cases line with
      | none => simp [hline, Except.bind, unseen] at h
      | some line => exact ⟨line, rfl⟩

end GitLogin.Source
