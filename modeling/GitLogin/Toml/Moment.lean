namespace GitLogin.Toml

def number? (ds : List Char) : Option Nat :=
  if ds.all Char.isDigit then some (ds.foldl (fun n c => 10 * n + (c.toNat - 0x30)) 0) else none

def isLeapYear (y : Nat) : Bool := y % 4 == 0 && (y % 100 != 0 || y % 400 == 0)

def daysIn (y m : Nat) : Nat :=
  if m = 2 then if isLeapYear y then 29 else 28
  else if m = 4 ∨ m = 6 ∨ m = 9 ∨ m = 11 then 30
  else 31

def afterDate? : List Char → Option (List Char)
  | y₁ :: y₂ :: y₃ :: y₄ :: '-' :: m₁ :: m₂ :: '-' :: d₁ :: d₂ :: rest => do
    let y ← number? [y₁, y₂, y₃, y₄]
    let m ← number? [m₁, m₂]
    let d ← number? [d₁, d₂]
    if 1 ≤ m && m ≤ 12 && 1 ≤ d && d ≤ daysIn y m then some rest else none
  | _ => none

def isHourMinute (h₁ h₂ m₁ m₂ : Char) : Bool :=
  (number? [h₁, h₂]).any (· < 24) && (number? [m₁, m₂]).any (· < 60)

def afterTime? : List Char → Option (List Char)
  | h₁ :: h₂ :: ':' :: m₁ :: m₂ :: ':' :: s₁ :: s₂ :: rest =>
    if isHourMinute h₁ h₂ m₁ m₂ && (number? [s₁, s₂]).any (· < 61) then
      match rest with
      | '.' :: f :: rest => if f.isDigit then some (rest.dropWhile Char.isDigit) else none
      | rest => some rest
    else none
  | _ => none

def isOffset : List Char → Bool
  | [] | ['Z'] | ['z'] => true
  | [sign, h₁, h₂, ':', m₁, m₂] => (sign == '+' || sign == '-') && isHourMinute h₁ h₂ m₁ m₂
  | _ => false

def isTimeWithOffset (cs : List Char) : Bool := (afterTime? cs).any isOffset

def isDate (cs : List Char) : Bool := (afterDate? cs).any List.isEmpty

def isMoment (cs : List Char) : Bool :=
  match afterDate? cs with
  | some [] => true
  | some (c :: time) => (c == 'T' || c == 't') && isTimeWithOffset time
  | none => (afterTime? cs).any List.isEmpty

end GitLogin.Toml
