import GitLogin.Toml
import GitLogin.Toml.Moment
import GitLogin.Toml.Number

/-!
Reading a TOML document.
-/

namespace GitLogin.Toml

abbrev Parser (α : Type) := List Char → Option (α × List Char)

def nestingLimit : Nat := 80

def skipSpace (cs : List Char) : List Char := cs.dropWhile isSpace

def skipBlank : (inComment : Bool) → List Char → List Char
  | _, [] => []
  | _, '\n' :: cs => skipBlank false cs
  | _, '\r' :: '\n' :: cs => skipBlank false cs
  | true, c :: cs => if isTextChar c then skipBlank true cs else c :: cs
  | false, c :: cs =>
    if c == '#' then skipBlank true cs
    else if isSpace c then skipBlank false cs
    else c :: cs

def endLine? (cs : List Char) : Option (List Char) :=
  let cs := skipSpace cs
  let cs := if cs.head? == some '#' then cs.dropWhile isTextChar else cs
  match cs with
  | [] => some []
  | '\n' :: cs | '\r' :: '\n' :: cs => some cs
  | _ => none

def isBare (c : Char) : Bool := c.isAlphanum || c == '_' || c == '-'

def simpleKey : Parser String := fun cs =>
  match oneLine? cs with
  | some r => some r
  | none =>
    let name := cs.takeWhile isBare
    if name.isEmpty then none else some (.ofList name, cs.drop name.length)

def dottedKey (cs : List Char) : Option (List String × List Char) :=
  match simpleKey (skipSpace cs) with
  | none => none
  | some (name, rest) =>
    match skipSpace rest with
    | '.' :: rest =>
      if rest.length < cs.length then (dottedKey rest).map fun (ks, rest) => (name :: ks, rest)
      else none
    | rest => some ([name], rest)
termination_by cs.length

def key : Parser (List String) := fun cs =>
  (dottedKey cs).filter fun (ks, _) => ks.length < nestingLimit

def isScalarChar (c : Char) : Bool := c.isAlphanum || "+-_.:".toList.contains c

def scalar : Parser Toml := fun cs =>
  let word := cs.takeWhile isScalarChar
  let rest := cs.dropWhile isScalarChar
  if word == "true".toList then some (.boolean true, rest)
  else if word == "false".toList then some (.boolean false, rest)
  else if isMoment word then
    let time := (rest.drop 1).takeWhile isScalarChar
    if isDate word && rest.head? == some ' ' && isTimeWithOffset time then
      some (.moment (.ofList (word ++ ' ' :: time)), rest.drop (time.length + 1))
    else some (.moment (.ofList word), rest)
  else
    match integer? word with
    | some n => some (.integer n, rest)
    | none => if isFloat word then some (.float (.ofList word), rest) else none

def elements (item : Parser Toml) (cs : List Char) : Option (List Toml × List Char) :=
  match skipBlank false cs with
  | ']' :: rest => some ([], rest)
  | start =>
    match item start with
    | none => none
    | some (v, rest) =>
      match skipBlank false rest with
      | ']' :: rest => some ([v], rest)
      | ',' :: rest =>
        if rest.length < cs.length then (elements item rest).map fun (vs, rest) => (v :: vs, rest)
        else none
      | _ => none
termination_by cs.length

def pair (item : Parser Toml) : Parser (List String × Toml) := fun cs =>
  match key cs with
  | some (k, '=' :: rest) => (item (skipSpace rest)).map fun (v, rest) => ((k, v), rest)
  | _ => none

def pairs (item : Parser Toml) (cs : List Char) :
    Option (List (List String × Toml) × List Char) :=
  match pair item cs with
  | none => none
  | some (p, rest) =>
    match skipSpace rest with
    | '\x7d' :: rest => some ([p], rest)
    | ',' :: rest =>
      if rest.length < cs.length then (pairs item rest).map fun (ps, rest) => (p :: ps, rest)
      else none
    | _ => none
termination_by cs.length

def inlineTable (item : Parser Toml) : Parser Toml := fun cs =>
  match skipSpace cs with
  | '\x7d' :: rest => some (.table .inline [], rest)
  | _ => do
    let (ps, rest) ← pairs item cs
    let es ← ps.foldlM (fun es (k, v) => put k v es) []
    pure (.table .inline es, rest)

def value : (depth : Nat) → Parser Toml
  | 0, cs => match quoted? cs with
    | some (s, rest) => some (.string s, rest)
    | none => scalar cs
  | depth + 1, cs =>
    match cs with
    | '[' :: cs => (elements (value depth) cs).map fun (vs, rest) => (.array vs, rest)
    | '\x7b' :: cs => inlineTable (value depth) cs
    | cs => value 0 cs

def statement (cs : List Char) : Option (Statement × List Char) :=
  match cs with
  | '[' :: '[' :: cs =>
    match key cs with
    | some (path, ']' :: ']' :: rest) => some (.element path, rest)
    | _ => none
  | '[' :: cs =>
    match key cs with
    | some (path, ']' :: rest) => some (.header path, rest)
    | _ => none
  | cs => (pair (value (nestingLimit - 1)) cs).map fun ((k, v), rest) => (.entry k v, rest)

def statements (cs : List Char) : Option (List Statement) :=
  if cs.isEmpty then some []
  else
    match endLine? cs with
    | some rest => if rest.length < cs.length then statements rest else none
    | none => do
      let (s, rest) ← statement (skipSpace cs)
      let rest ← endLine? rest
      if rest.length < cs.length then return s :: (← statements rest) else none
termination_by cs.length

def dropMark : List Char → List Char
  | '\ufeff' :: cs => cs
  | cs => cs

def parse? (text : String) : Option Toml := (statements (dropMark text.toList)).bind ofStatements

instance : TomlParser := ⟨parse?⟩

end GitLogin.Toml
