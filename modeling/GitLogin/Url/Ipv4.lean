import GitLogin.Text.Pieces
import GitLogin.Url

namespace GitLogin.Url

namespace Ipv4

def digits? (base : Nat) (digit : Char → Option Nat) (cs : List Char) : Option Nat :=
  cs.foldlM (fun n c => (digit c).map (base * n + ·)) 0

def digitBelow (base : Nat) (c : Char) : Option Nat :=
  let value :=
    if c.isDigit then some (c.toNat - 0x30)
    else if 'a' ≤ c && c ≤ 'f' then some (c.toNat - 0x61 + 10)
    else if 'A' ≤ c && c ≤ 'F' then some (c.toNat - 0x41 + 10)
    else none
  value.filter (· < base)

def number? : List Char → Option Nat
  | [] => none
  | '0' :: 'x' :: cs | '0' :: 'X' :: cs => digits? 16 (digitBelow 16) cs
  | '0' :: c :: cs => digits? 8 (digitBelow 8) (c :: cs)
  | cs => digits? 10 (digitBelow 10) cs

def parts (host : List Char) : List (List Char) :=
  match (Text.pieces '.' host).reverse with
  | [] :: ps => ps.reverse
  | ps => ps.reverse

def endsInNumber (host : List Char) : Bool :=
  match (parts host).getLast? with
  | none => false
  | some last => (!last.isEmpty && last.all Char.isDigit) || (number? last).isSome

def address? (host : List Char) : Option Nat := do
  let ps := parts host
  if 4 < ps.length then none
  else
    let numbers ← ps.mapM number?
    let last ← numbers.getLast?
    let bytes := numbers.dropLast
    if bytes.any (255 < ·) || Nat.pow 256 (4 - bytes.length) ≤ last then none
    else some (bytes.foldl (256 * · + ·) 0 * Nat.pow 256 (4 - bytes.length) + last)

def text (address : Nat) : String :=
  ".".intercalate ([3, 2, 1, 0].map fun i => toString (address / Nat.pow 256 i % 256))

end Ipv4

end GitLogin.Url
