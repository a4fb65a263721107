import GitLogin.Domain.Bidi
import GitLogin.Domain.Joiner
import GitLogin.Domain.Mapping
import GitLogin.Domain.Punycode
import GitLogin.Text.Pieces
import GitLogin.Unicode.Composed
import GitLogin.Unicode.Mark

namespace GitLogin.Domain

open Unicode

def isForbidden (c : Char) : Bool :=
  c.toNat ≤ 0x20 || c.toNat == 0x7F || "%#/:<>?@[\\]^|".toList.contains c

def isAscii (c : Char) : Bool := c.toNat < 0x80

def punycodeMark : List Char := ['x', 'n', '-', '-']

structure Label where
  shown : List Char
  written : List Char

namespace Label

def isSound (shown : List Char) : Bool :=
  !(shown.head?.any isMark) && joinersFit [] shown

/-- An encoded label has to stand for one that the encoding was needed for and that no mapping
would change. -/
def ofEncoded (written : List Char) : Option Label := do
  let shown ← Punycode.decode (written.drop punycodeMark.length)
  if shown.all isAscii || punycodeMark.isPrefixOf shown then none
  else if shown.any (fun c => c == '.' || isForbidden c || status c != .valid) then none
  else if composed shown != shown then none
  else if isSound shown then some ⟨shown, written⟩
  else none

def of (label : List Char) : Option Label :=
  if punycodeMark.isPrefixOf label then
    if label.all isAscii then ofEncoded label else none
  else if label.all isAscii then some ⟨label, label⟩
  else if isSound label then some ⟨label, punycodeMark ++ Punycode.encode label⟩
  else none

end Label

def isPlain (name : List Char) : Bool :=
  name.all isAscii && !(Text.pieces '.' name).any punycodeMark.isPrefixOf

/-- Plain names, which are most, need none of the tables. -/
def toAscii? (name : List Char) : Option (List Char) :=
  let lower := name.map Char.toLower
  if isPlain lower then
    if lower.any isForbidden then none else some lower
  else do
    let mapped := composed (← mapName name)
    if mapped.any isForbidden then none
    else
      let ls ← (Text.pieces '.' mapped).mapM Label.of
      if ls.any (fun l => hasRightToLeft l.shown) && !(ls.all fun l => isBidiLabel l.shown) then none
      else some (['.'].intercalate (ls.map Label.written))

end GitLogin.Domain
