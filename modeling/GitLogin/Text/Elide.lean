namespace GitLogin.Text

def ellipsis : Char := '…'

/-- At most `width` characters of a text: half of them from its end, one for the ellipsis, and
the others from its start. A text that fits is kept whole. -/
def elide (width : Nat) (s : String) : String :=
  let cs := s.toList
  let kept := width / 2
  if cs.length ≤ width then s
  else .ofList (cs.take (width - (kept + 1)) ++ ellipsis :: cs.drop (cs.length - kept))

end GitLogin.Text
