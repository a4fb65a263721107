namespace GitLogin.Url

def isControl (c : Char) : Bool := c.toNat < 0x20 || 0x7F ≤ c.toNat

def isPathEscape (c : Char) : Bool := isControl c || " \"<>`#?\x7b\x7d".toList.contains c

def isUserEscape (c : Char) : Bool := isPathEscape c || "/:;=@[\\]^|".toList.contains c

def hexUpper (n : UInt8) : Char := (Nat.digitChar n.toNat).toUpper

def encodeByte (b : UInt8) : List Char := ['%', hexUpper (b / 16), hexUpper (b % 16)]

def encodeChar (c : Char) : List Char := (String.utf8EncodeChar c).flatMap encodeByte

def percentEncode (escape : Char → Bool) (cs : List Char) : List Char :=
  cs.flatMap fun c => if escape c then encodeChar c else [c]

def hexValue? (b : UInt8) : Option UInt8 :=
  if 0x30 ≤ b && b ≤ 0x39 then some (b - 0x30)
  else if 0x41 ≤ b && b ≤ 0x46 then some (b - 0x41 + 10)
  else if 0x61 ≤ b && b ≤ 0x66 then some (b - 0x61 + 10)
  else none

def percentDecode : List UInt8 → List UInt8
  | [] => []
  | [b] => [b]
  | [b, c] => [b, c]
  | b :: c :: d :: bs =>
    match if b = 0x25 then (hexValue? c, hexValue? d) else (none, none) with
    | (some high, some low) => (16 * high + low) :: percentDecode bs
    | _ => b :: percentDecode (c :: d :: bs)

end GitLogin.Url
