namespace GitLogin.Domain.Punycode

def base : Nat := 36

def firstCode : Nat := 0x80

def firstBias : Nat := 72

def digitValue (c : Char) : Option Nat :=
  if c.isLower then some (c.toNat - 'a'.toNat)
  else if c.isDigit then some (c.toNat - '0'.toNat + 26)
  else none

def digitChar (d : Nat) : Char :=
  if d < 26 then .ofNat ('a'.toNat + d) else .ofNat ('0'.toNat + (d - 26))

def threshold (bias place : Nat) : Nat := min 26 (max 1 (place - bias))

theorem threshold_pos (bias place : Nat) : 0 < threshold bias place := by
  unfold threshold
  omega

theorem threshold_lt_base (bias place : Nat) : threshold bias place < base := by
  unfold threshold base
  omega

def adaptFrom (delta place : Nat) : Nat :=
  if 455 < delta then adaptFrom (delta / 35) (place + base)
  else place + base * delta / (delta + 38)
termination_by delta
decreasing_by exact Nat.div_lt_self (by omega) (by omega)

def adapt (delta count : Nat) (isFirst : Bool) : Nat :=
  let d := if isFirst then delta / 700 else delta / 2
  adaptFrom (d + d / count) 0

/-- The text so far, where its last character went, and the number that is being read. -/
structure Decoding where
  text : List Char
  code : Nat := firstCode
  position : Nat := 0
  bias : Nat := firstBias
  isFirst : Bool := true
  delta : Nat := 0
  weight : Nat := 1
  place : Nat := base

namespace Decoding

def place? (d : Decoding) (delta : Nat) : Option Decoding :=
  let count := d.text.length + 1
  let position := d.position + delta
  let code := d.code + position / count
  if code.isValidChar then
    some {
      text := d.text.insertIdx (position % count) (.ofNat code)
      code
      position := position % count + 1
      bias := adapt delta count d.isFirst
      isFirst := false }
  else none

def feed (d : Decoding) (c : Char) : Option Decoding := do
  let digit ← digitValue c
  let delta := d.delta + digit * d.weight
  let t := threshold d.bias d.place
  if digit < t then d.place? delta
  else some { d with delta, weight := d.weight * (base - t), place := d.place + base }

def isBetween (d : Decoding) : Bool := d.place == base

end Decoding

def decode (cs : List Char) : Option (List Char) := do
  let digits := (cs.reverse.takeWhile (· != '-')).reverse
  let ascii := cs.take (cs.length - digits.length - 1)
  if digits.length < cs.length && ascii.isEmpty then none
  else
    let d ← digits.foldlM Decoding.feed { text := ascii }
    if d.isBetween then some d.text else none

def digits (bias place delta : Nat) : List Char :=
  let t := threshold bias place
  if delta < t then [digitChar delta]
  else
    digitChar (t + (delta - t) % (base - t)) ::
      digits bias (place + base) ((delta - t) / (base - t))
termination_by delta
decreasing_by
  have := threshold_pos bias place
  have := Nat.div_le_self (delta - threshold bias place) (base - threshold bias place)
  omega

structure Encoding where
  output : List Char
  placed : Nat
  delta : Nat := 0
  bias : Nat := firstBias
  isFirst : Bool := true

namespace Encoding

def feed (code : Nat) (e : Encoding) (c : Char) : Encoding :=
  if c.toNat < code then { e with delta := e.delta + 1 }
  else if c.toNat = code then
    { output := e.output ++ digits e.bias base e.delta
      placed := e.placed + 1
      bias := adapt e.delta (e.placed + 1) e.isFirst
      isFirst := false }
  else e

def placeAll (cs : List Char) (e : Encoding) (least : Nat) : List Nat → Encoding
  | [] => e
  | code :: codes =>
    let e := { e with delta := e.delta + (code - least) * (e.placed + 1) }
    let e := cs.foldl (feed code) e
    placeAll cs { e with delta := e.delta + 1 } (code + 1) codes

end Encoding

def encode (cs : List Char) : List Char :=
  let ascii := cs.filter (·.toNat < firstCode)
  let codes := ((cs.map Char.toNat).filter (firstCode ≤ ·)).mergeSort.eraseDups
  let start := if ascii.isEmpty then [] else ascii ++ ['-']
  (Encoding.placeAll cs { output := start, placed := ascii.length } firstCode codes).output

end GitLogin.Domain.Punycode
