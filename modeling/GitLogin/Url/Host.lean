import GitLogin.Domain.Ascii
import GitLogin.Text.Utf8
import GitLogin.Url.Ipv6
import GitLogin.Url.Percent

namespace GitLogin.Url

def ipv6Host (cs : List Char) : Except UrlError String :=
  match if cs.getLast? = some ']' then Ipv6.address? cs.dropLast else none with
  | some groups => .ok ("[" ++ Ipv6.text groups ++ "]")
  | none => .error .ipv6

/-- A name is percent-decoded and brought to ASCII; one that then ends in a number has to be an
address. -/
def domainHost (cs : List Char) : Except UrlError String :=
  let bytes := percentDecode (Text.Utf8.encode (.ofList cs))
  match (Text.Utf8.decode bytes).bind fun name => Domain.toAscii? name.toList with
  | none => .error .domainName
  | some [] => .error .emptyHost
  | some name =>
    if Ipv4.endsInNumber name then
      match Ipv4.address? name with
      | some address => .ok (Ipv4.text address)
      | none => .error .ipv4
    else .ok (.ofList name)

def isForbiddenInHost (c : Char) : Bool := "\x00\t\n\r #/:<>?@[\\]^|".toList.contains c

def opaqueHost (cs : List Char) : Except UrlError String :=
  if cs.any isForbiddenInHost then .error .hostCharacter
  else .ok (.ofList (percentEncode isControl cs))

def hostOf (k : SchemeKind) : List Char → Except UrlError String
  | '[' :: cs => ipv6Host cs
  | cs => if k.isSpecial then domainHost cs else opaqueHost cs

end GitLogin.Url
