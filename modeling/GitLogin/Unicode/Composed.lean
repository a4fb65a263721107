import GitLogin.Unicode.CombiningClass
import GitLogin.Unicode.Decomposition

namespace GitLogin.Unicode

def insertMark (c : Char) : List Char → List Char
  | [] => [c]
  | d :: ds =>
    if combiningClass d ≠ 0 ∧ combiningClass d < combiningClass c then d :: insertMark c ds
    else c :: d :: ds

def orderMarks (cs : List Char) : List Char := cs.foldr insertMark []

/-- Composes what follows a starting character. The marks that were passed, last first, stand
between it and the rest; one of the same or a higher class keeps a later one away. -/
def composeAfter (start : Char) (passed : List Char) : List Char → List Char
  | [] => start :: passed.reverse
  | c :: cs =>
    let blocked := (passed.head?.map fun p => decide (combiningClass c ≤ combiningClass p)).getD false
    match if blocked then none else composePair start c with
    | some start => composeAfter start passed cs
    | none =>
      if combiningClass c = 0 then start :: passed.reverse ++ composeAfter c [] cs
      else composeAfter start (c :: passed) cs

def compose : List Char → List Char
  | [] => []
  | c :: cs => if combiningClass c = 0 then composeAfter c [] cs else c :: compose cs

def composed (cs : List Char) : List Char := compose (orderMarks (cs.flatMap decompose))

end GitLogin.Unicode
