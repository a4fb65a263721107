namespace GitLogin.Text

def isSeparator (c : Char) : Bool := c == '/' || c == '\\'

/-- Separators at the end do not count, so a directory has its own name. -/
def baseName (path : String) : String :=
  .ofList ((path.toList.reverse.dropWhile isSeparator).takeWhile (!isSeparator ·)).reverse

end GitLogin.Text
