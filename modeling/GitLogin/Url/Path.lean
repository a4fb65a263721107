import GitLogin.Text.Pieces
import GitLogin.Url.Percent
import GitLogin.Url

/-!
The path of a URL: its segments, with dot segments taken out. In a file URL the first segment
may be a drive, whose bar is written as a colon. No dots lead out of a drive.
-/

namespace GitLogin.Url

abbrev Segment := List Char

def Segment.lower (s : Segment) : String := .ofList (s.map Char.toLower)

def isDot (s : Segment) : Bool := [".", "%2e"].contains (Segment.lower s)

def isDoubleDot (s : Segment) : Bool :=
  ["..", ".%2e", "%2e.", "%2e%2e"].contains (Segment.lower s)

def isDrive : Segment → Bool
  | [a, b] => a.isAlpha && (b == ':' || b == '|')
  | _ => false

def leave : List Segment → List Segment
  | [] => []
  | s :: ss => if isDrive s then s :: ss else ss

def segment (k : SchemeKind) (isFirst : Bool) (s : Segment) : Segment :=
  if k = .file ∧ isFirst ∧ isDrive s then s.take 1 ++ [':'] else percentEncode isPathEscape s

/-- Follows the segments of a path from those before it, last first. Dots at the end leave an
empty segment. -/
def resolve (k : SchemeKind) : (done : List Segment) → List Segment → List Segment
  | done, [] => done.reverse
  | done, s :: rest =>
    if isDoubleDot s || isDot s then
      let done := if isDoubleDot s then leave done else done
      resolve k (if rest.isEmpty then [] :: done else done) rest
    else resolve k (segment k done.isEmpty s :: done) rest

def segments (k : SchemeKind) (cs : List Char) : List Segment :=
  resolve k [] (Text.pieces '/'
    ((cs.takeWhile (!endsPath ·)).map fun c => if isSlash k c then '/' else c))

def pathText (ss : List Segment) : String := .ofList (ss.flatMap ('/' :: ·))

def filePathText (ss : List Segment) : String :=
  match ss.dropWhile List.isEmpty with
  | [] => "/"
  | ss => pathText ss

def afterSlash (k : SchemeKind) : List Char → List Char
  | c :: cs => if isSlash k c then cs else c :: cs
  | [] => []

def pathAfterHost (k : SchemeKind) (cs : List Char) : String :=
  if !k.isSpecial && (cs.head?.all endsPath) then "" else pathText (segments k (afterSlash k cs))

def opaquePath (cs : List Char) : String :=
  .ofList (percentEncode isControl (cs.takeWhile (!endsPath ·)))

end GitLogin.Url
