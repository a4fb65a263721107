/-!
Character properties as sorted runs of code points, read from a compact text: `first-last` for a
run, `first/last` for every second code point of one, each with its value after a colon.
-/

namespace GitLogin.Unicode

/-- The code points `first`, `first + step`, … up to `last`, and what holds of them. -/
structure Run (α : Type) where
  first : Nat
  last : Nat
  step : Nat
  value : α

abbrev Table (α : Type) := Array (Run α)

def hexDigit (c : Char) : Nat := if c.isDigit then c.toNat - 0x30 else c.toNat - 0x61 + 10

def readHex (word : String) : Nat := word.foldl (fun n c => 16 * n + hexDigit c) 0

def readRun {α : Type} (value : String → α) (word : String) : Run α :=
  let (range, v) := match word.splitOn ":" with
    | [range, v] => (range, v)
    | _ => (word, "")
  match range.splitOn "-", range.splitOn "/" with
  | [a, b], _ => ⟨readHex a, readHex b, 1, value v⟩
  | _, [a, b] => ⟨readHex a, readHex b, 2, value v⟩
  | _, _ => ⟨readHex range, readHex range, 1, value v⟩

def words (text : String) : List String :=
  (text.splitToList fun c => c == ' ' || c == '\n').filter (!·.isEmpty)

namespace Table

variable {α : Type}

def ofText (value : String → α) (text : String) : Table α :=
  ((words text).map (readRun value)).toArray

def search (t : Table α) (n lo hi : Nat) : Option (Run α) :=
  if _h : lo < hi then
    match t[(lo + hi) / 2]? with
    | none => none
    | some r =>
      if n < r.first then search t n lo ((lo + hi) / 2)
      else if r.last < n then search t n ((lo + hi) / 2 + 1) hi
      else if (n - r.first) % r.step = 0 then some r
      else none
  else none
termination_by hi - lo

def run? (t : Table α) (c : Char) : Option (Run α) := t.search c.toNat 0 t.size

def find? (t : Table α) (c : Char) : Option α := (t.run? c).map Run.value

end Table

end GitLogin.Unicode
