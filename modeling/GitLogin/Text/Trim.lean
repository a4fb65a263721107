namespace GitLogin.Text

/-- The characters with the White_Space property. -/
def isBlank (c : Char) : Bool :=
  let n := c.toNat
  (0x9 ≤ n && n ≤ 0xD) || n == 0x20 || n == 0x85 || n == 0xA0 || n == 0x1680 ||
    (0x2000 ≤ n && n ≤ 0x200A) || n == 0x2028 || n == 0x2029 || n == 0x202F || n == 0x205F ||
    n == 0x3000

def isLineEnd (c : Char) : Bool := c == '\n' || c == '\r'

def dropStart (p : Char → Bool) (s : String) : String := .ofList (s.toList.dropWhile p)

def dropEnd (p : Char → Bool) (s : String) : String :=
  .ofList (s.toList.reverse.dropWhile p).reverse

def trim (s : String) : String := dropEnd isBlank (dropStart isBlank s)

def chomp (s : String) : String := dropEnd isLineEnd s

/-- A text of blanks alone counts as no text; any other is kept as it is, blanks included. -/
def nonBlank? (s : String) : Option String := if s.toList.all isBlank then none else some s

def nonEmpty? (s : String) : Option String := if s.isEmpty then none else some s

def cut? (c : Char) (s : String) : Option (String × String) :=
  match s.toList.dropWhile (· != c) with
  | [] => none
  | _ :: after => some (.ofList (s.toList.takeWhile (· != c)), .ofList after)

def cutLast? (c : Char) (s : String) : Option (String × String) :=
  match s.toList.reverse.dropWhile (· != c) with
  | [] => none
  | _ :: before =>
    some (.ofList before.reverse, .ofList (s.toList.reverse.takeWhile (· != c)).reverse)

def afterStart? (start s : String) : Option String :=
  if start.toList.isPrefixOf s.toList then some (.ofList (s.toList.drop start.length)) else none

@[simp] theorem toList_dropStart (p : Char → Bool) (s : String) :
    (dropStart p s).toList = s.toList.dropWhile p := String.toList_ofList

@[simp] theorem toList_dropEnd (p : Char → Bool) (s : String) :
    (dropEnd p s).toList = (s.toList.reverse.dropWhile p).reverse := String.toList_ofList

end GitLogin.Text
