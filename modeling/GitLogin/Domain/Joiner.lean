import GitLogin.Unicode.CombiningClass
import GitLogin.Unicode.JoiningType

namespace GitLogin.Domain

open Unicode

def nonJoiner : Char := '\u200c'

def joiner : Char := '\u200d'

def nearestJoining (cs : List Char) : JoiningType :=
  ((cs.map joiningType).find? (· != .transparent)).getD .none

def joinersFit : (before : List Char) → List Char → Bool
  | _, [] => true
  | before, c :: after =>
    let afterVirama := before.head?.any isVirama
    let betweenLetters :=
      (nearestJoining before == .left || nearestJoining before == .dual) &&
        (nearestJoining after == .right || nearestJoining after == .dual)
    (if c == nonJoiner then afterVirama || betweenLetters
      else if c == joiner then afterVirama
      else true) &&
      joinersFit (c :: before) after

end GitLogin.Domain
