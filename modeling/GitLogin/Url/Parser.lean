import GitLogin.Url.Authority
import GitLogin.Url.Path

namespace GitLogin.Url

def cutScheme (cs : List Char) : Option (String × List Char) :=
  let scheme := cs.takeWhile fun c => c.isAlphanum || c == '+' || c == '-' || c == '.'
  match scheme, cs.drop scheme.length with
  | c :: _, ':' :: rest => if c.isAlpha then some (.ofList (scheme.map Char.toLower), rest) else none
  | _, _ => none

def withAuthority (scheme : String) (k : SchemeKind) (cs : List Char) : Except UrlError Url := do
  let (a, rest) ← cutAuthority scheme k cs
  pure {
    scheme
    username := .ofList a.user.username
    password := if a.user.password.isEmpty then none else some (.ofList a.user.password)
    host := a.host
    port := a.port
    path := pathAfterHost k rest }

def cutFileHost (cs : List Char) : Except UrlError (Option String × List Char) :=
  let name := cs.takeWhile (!endsAuthority .file ·)
  if isDrive name then .ok (none, cs)
  else
    let rest := cs.drop name.length
    if name.isEmpty then .ok (none, rest)
    else do
      let host ← hostOf .file name
      pure (if host = "localhost" then none else some host, rest)

def fileUrl (host : Option String) (ss : List Segment) : Url where
  scheme := "file"
  host := if ss.head?.any isDrive then none else host
  path := filePathText ss

def parseFile (cs : List Char) : Except UrlError Url :=
  match cs.span (isSlash .file) with
  | (_ :: _ :: _, _) => do
    let (host, rest) ← cutFileHost (cs.drop 2)
    -- with no host in between, the third slash opens an empty segment, and a drive that comes
    -- after it keeps its bar
    pure (fileUrl host (segments .file (if host.isSome then afterSlash .file rest else rest)))
  | _ => .ok (fileUrl none (segments .file (afterSlash .file cs)))

def significant (text : String) : List Char :=
  (Text.dropEnd (· ≤ ' ') (Text.dropStart (· ≤ ' ') text)).toList.filter
    fun c => c != '\t' && c != '\n' && c != '\r'

def parse (text : String) : Except UrlError Url :=
  match cutScheme (significant text) with
  | none => .error .relative
  | some (scheme, rest) =>
    match SchemeKind.of scheme, rest with
    | .file, rest => parseFile rest
    | .special, rest => withAuthority scheme .special (rest.dropWhile (isSlash .special))
    | .general, '/' :: '/' :: rest => withAuthority scheme .general rest
    | .general, '/' :: rest => .ok { scheme, path := pathText (segments .general rest) }
    | .general, rest => .ok { scheme, path := opaquePath rest }

instance : UrlParser := ⟨parse⟩

end GitLogin.Url
