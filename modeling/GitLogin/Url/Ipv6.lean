import GitLogin.Text.Pieces
import GitLogin.Text.Record
import GitLogin.Url.Ipv4

namespace GitLogin.Url.Ipv6

def group? (cs : List Char) : Option Nat :=
  if cs.isEmpty || 4 < cs.length then none else Ipv4.digits? 16 (Ipv4.digitBelow 16) cs

def byte? (cs : List Char) : Option Nat :=
  match cs with
  | [] | '0' :: _ :: _ => none
  | cs => (Ipv4.digits? 10 (Ipv4.digitBelow 10) cs).filter (· < 256)

def quad? (cs : List Char) : Option (List Nat) :=
  match (Text.pieces '.' cs).map byte? with
  | [some a, some b, some c, some d] => some [256 * a + b, 256 * c + d]
  | _ => none

def groups? (atEnd : Bool) (cs : List Char) : Option (List Nat) :=
  let ps := Text.pieces ':' cs
  match ps.getLast? with
  | none => none
  | some last => do
    let front ← ps.dropLast.mapM group?
    let back ← if atEnd && last.contains '.' then quad? last else (group? last).map ([·])
    some (front ++ back)

def groupsOrNone? (atEnd : Bool) (cs : List Char) : Option (List Nat) :=
  if cs.isEmpty then some [] else groups? atEnd cs

def cutDouble : List Char → Option (List Char × List Char)
  | ':' :: ':' :: cs => some ([], cs)
  | c :: cs => (cutDouble cs).map fun (before, after) => (c :: before, after)
  | [] => none

def address? (cs : List Char) : Option (List Nat) :=
  match cutDouble cs with
  | none => do
    let groups ← groups? true cs
    if groups.length = 8 then some groups else none
  | some (before, after) => do
    let front ← groupsOrNone? false before
    let back ← groupsOrNone? true after
    let given := front.length + back.length
    if given ≤ 7 then some (front ++ List.replicate (8 - given) 0 ++ back) else none

def zerosAt (groups : List Nat) (i : Nat) : Nat := ((groups.drop i).takeWhile (· == 0)).length

def longestZeros (groups : List Nat) : Option Nat :=
  let best := (List.range groups.length).foldl
    (fun best i => if zerosAt groups best < zerosAt groups i then i else best) 0
  if 2 ≤ zerosAt groups best then some best else none

def joined (groups : List Nat) : String := ":".intercalate (groups.map Text.hex)

def text (groups : List Nat) : String :=
  match longestZeros groups with
  | none => joined groups
  | some i => joined (groups.take i) ++ "::" ++ joined (groups.drop (i + zerosAt groups i))

end GitLogin.Url.Ipv6
