import GitLogin.Text.Pieces
import GitLogin.Toml.Quoted

namespace GitLogin.Toml

def digits? (isDigit : Char → Bool) (cs : List Char) : Option (List Char) :=
  let groups := Text.pieces '_' cs
  if groups.all fun g => !g.isEmpty && g.all isDigit then some groups.flatten else none

def valueIn (base : Nat) (digits : List Char) : Nat :=
  digits.foldl (fun n c => base * n + (hexValue? c).getD 0) 0

def decimal? (cs : List Char) : Option (List Char) :=
  match cs with
  | '0' :: _ :: _ => none
  | cs => digits? Char.isDigit cs

def cutSign : List Char → Bool × List Char
  | '-' :: cs => (true, cs)
  | '+' :: cs => (false, cs)
  | cs => (false, cs)

def hasDigitIn (base : Nat) (c : Char) : Bool := (hexValue? c).any (· < base)

def anyInteger? (cs : List Char) : Option Int :=
  match cs with
  | '0' :: 'x' :: cs => (digits? (hasDigitIn 16) cs).map fun ds => valueIn 16 ds
  | '0' :: 'o' :: cs => (digits? (hasDigitIn 8) cs).map fun ds => valueIn 8 ds
  | '0' :: 'b' :: cs => (digits? (hasDigitIn 2) cs).map fun ds => valueIn 2 ds
  | cs =>
    let (negative, digits) := cutSign cs
    (decimal? digits).map fun ds => if negative then -(valueIn 10 ds : Int) else valueIn 10 ds

def integer? (cs : List Char) : Option Int :=
  (anyInteger? cs).filter fun n => -(Nat.pow 2 63 : Nat) ≤ n && n < (Nat.pow 2 63 : Nat)

/-- From here on a number is nearer to infinity than to the greatest double. -/
def overflow : Nat := Nat.pow 2 1024 - Nat.pow 2 970

def overflows (digits : List Char) (exponent : Int) : Bool :=
  let digits := digits.dropWhile (· == '0')
  let places := digits.length + exponent
  if digits.isEmpty || places < 309 then false
  else if 309 < places then true
  else
    overflow * Nat.pow 10 (-exponent).toNat ≤ valueIn 10 digits * Nat.pow 10 exponent.toNat

def isDecimalFloat (cs : List Char) : Bool :=
  let (negative, cs) := cutSign cs
  let isExponent := fun c => c == 'e' || c == 'E'
  let mantissa := cs.takeWhile (!isExponent ·)
  let exponent? : Option Int :=
    match cs.dropWhile (!isExponent ·) with
    | [] => some 0
    | _ :: cs =>
      let (negative, cs) := cutSign cs
      (digits? Char.isDigit cs).map fun ds => if negative then -(valueIn 10 ds : Int) else valueIn 10 ds
  let digits? : Option (List Char × List Char) :=
    match Text.pieces '.' mantissa with
    | [whole] => if mantissa.length = cs.length then none else (decimal? whole).map (·, [])
    | [whole, fraction] => do pure (← decimal? whole, ← digits? Char.isDigit fraction)
    | _ => none
  match digits?, exponent? with
  | some (whole, fraction), some e =>
    negative || !overflows (whole ++ fraction) (e - fraction.length)
  | _, _ => false

def isFloat (cs : List Char) : Bool :=
  let (_, name) := cutSign cs
  name == "inf".toList || name == "nan".toList || isDecimalFloat cs

end GitLogin.Toml
