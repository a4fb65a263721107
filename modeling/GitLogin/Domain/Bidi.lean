import GitLogin.Unicode.BidiClass

namespace GitLogin.Domain

open Unicode

def isRightToLeft : BidiClass → Bool
  | .right | .arabicLetter | .arabicNumber => true
  | _ => false

def hasRightToLeft (label : List Char) : Bool := label.any fun c => isRightToLeft (bidiClass c)

def fitsLeftToRight : BidiClass → Bool
  | .left | .europeanNumber | .europeanSeparator | .commonSeparator | .europeanTerminator
  | .otherNeutral | .boundaryNeutral | .nonspacingMark => true
  | _ => false

def fitsRightToLeft : BidiClass → Bool
  | .right | .arabicLetter | .arabicNumber | .europeanNumber | .europeanSeparator
  | .commonSeparator | .europeanTerminator | .otherNeutral | .boundaryNeutral
  | .nonspacingMark => true
  | _ => false

def lastClass (classes : List BidiClass) : Option BidiClass :=
  (classes.reverse.dropWhile (· == .nonspacingMark)).head?

/-- A label runs in the direction of its first character, holds only what fits that direction,
and ends in a letter or a number. Numbers of two kinds do not mix in one that runs to the left. -/
def isBidiLabel (label : List Char) : Bool :=
  let classes := label.map bidiClass
  match classes.head? with
  | none => true
  | some .left =>
    classes.all fitsLeftToRight && (lastClass classes).any fun l => l == .left || l == .europeanNumber
  | some .right | some .arabicLetter =>
    classes.all fitsRightToLeft &&
      (lastClass classes).any (fun l =>
        l == .right || l == .arabicLetter || l == .europeanNumber || l == .arabicNumber) &&
      !(classes.contains .europeanNumber && classes.contains .arabicNumber)
  | some _ => false

end GitLogin.Domain
