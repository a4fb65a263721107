import GitLogin.Url.Host

namespace GitLogin.Url

structure UserInfo where
  username : List Char := []
  password : List Char := []
  deriving DecidableEq

def UserInfo.isEmpty (u : UserInfo) : Bool := u.username.isEmpty && u.password.isEmpty

def UserInfo.of (cs : List Char) : UserInfo where
  username := percentEncode isUserEscape (cs.takeWhile (· != ':'))
  password := percentEncode isUserEscape (cs.dropWhile (· != ':')).tail

def cutUserInfo (k : SchemeKind) (cs : List Char) : Except UrlError (UserInfo × List Char) :=
  let authority := cs.takeWhile (!endsAuthority k ·)
  let hostPart := (authority.reverse.takeWhile (· != '@')).reverse
  if hostPart.length = authority.length then .ok ({}, cs)
  else
    let user := authority.take (authority.length - hostPart.length - 1)
    let rest := cs.drop (user.length + 1)
    if user.isEmpty && rest.head?.any (endsAuthority k) then .error .emptyHost
    else .ok (.of user, rest)

def cutHost (k : SchemeKind) : (inBrackets : Bool) → List Char → List Char × List Char
  | _, [] => ([], [])
  | inBrackets, c :: cs =>
    if endsAuthority k c || (c == ':' && !inBrackets) then ([], c :: cs)
    else
      let (h, rest) := cutHost k (if c == '[' then true else if c == ']' then false else inBrackets) cs
      (c :: h, rest)

def maxPort : Nat := 65535

def cutPort (scheme : String) (cs : List Char) : Except UrlError (Option Nat × List Char) :=
  let digits := cs.takeWhile Char.isDigit
  let rest := cs.dropWhile Char.isDigit
  let port := digits.foldl (fun n c => 10 * n + (c.toNat - 0x30)) 0
  if maxPort < port || rest.head?.any (!endsAuthority .special ·) then .error .port
  else if digits.isEmpty || defaultPort scheme = some port then .ok (none, rest)
  else .ok (some port, rest)

structure Authority where
  user : UserInfo := {}
  host : Option String := none
  port : Option Nat := none

def cutAuthority (scheme : String) (k : SchemeKind) (cs : List Char) :
    Except UrlError (Authority × List Char) := do
  let (user, rest) ← cutUserInfo k cs
  let (hostPart, rest) := cutHost k false rest
  if hostPart.isEmpty && (k.isSpecial || rest.head? == some ':') then throw .emptyHost
  let host ← hostOf k hostPart
  let (port, rest) ←
    match rest with
    | ':' :: rest => cutPort scheme rest
    | rest => pure (none, rest)
  if host.isEmpty then
    if user.isEmpty then pure ({ port }, rest) else throw .emptyHost
  else pure ({ user, host := some host, port }, rest)

end GitLogin.Url
