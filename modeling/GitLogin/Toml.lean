namespace GitLogin

inductive Origin
  | inline
  | header
  | implied
  | dotted
  deriving DecidableEq

/-- Numbers with a fraction and moments in time are kept as they are written. -/
inductive Toml
  | string (text : String)
  | integer (n : Int)
  | boolean (b : Bool)
  | float (text : String)
  | moment (text : String)
  | array (elements : List Toml)
  | table (origin : Origin) (entries : List (String × Toml))
  | tables (elements : List (List (String × Toml)))

/-- Whatever reads a text as a TOML document. -/
class TomlParser where
  parse? : String → Option Toml

namespace Toml

abbrev Entries := List (String × Toml)

def set (es : Entries) (key : String) (v : Toml) : Entries :=
  match es with
  | [] => [(key, v)]
  | (k, w) :: es => if k = key then (k, v) :: es else (k, w) :: set es key v

def mapLast? {α : Type} (f : α → Option α) : List α → Option (List α)
  | [] => none
  | [x] => (f x).map ([·])
  | x :: xs => (mapLast? f xs).map (x :: ·)

/-- Adds a value under a dotted key. Tables on the way may not have a header or braces of their
own, and the last of them has to be one that dotted keys made. -/
def put : (key : List String) → Toml → Entries → Option Entries
  | [], _, _ => none
  | [k], v, es => if (es.lookup k).isSome then none else some (es ++ [(k, v)])
  | k :: k' :: ks, v, es =>
    match es.lookup k with
    | none => (put (k' :: ks) v []).map fun inner => es ++ [(k, .table .dotted inner)]
    | some (.table .dotted inner) =>
      (put (k' :: ks) v inner).map fun inner => set es k (.table .dotted inner)
    | some (.table .implied inner) =>
      if ks.isEmpty then none
      else (put (k' :: ks) v inner).map fun inner => set es k (.table .implied inner)
    | some (.tables ts) =>
      if ks.isEmpty then none
      else (mapLast? (put (k' :: ks) v) ts).map fun ts => set es k (.tables ts)
    | some _ => none

def alter (f : Option Toml → Option Toml) : (path : List String) → Entries → Option Entries
  | [], _ => none
  | [k], es => (f (es.lookup k)).map (set es k)
  | k :: k' :: ks, es =>
    match es.lookup k with
    | none => (alter f (k' :: ks) []).map fun inner => set es k (.table .implied inner)
    | some (.table .inline _) => none
    | some (.table origin inner) =>
      (alter f (k' :: ks) inner).map fun inner => set es k (.table origin inner)
    | some (.tables ts) =>
      (mapLast? (alter f (k' :: ks)) ts).map fun ts => set es k (.tables ts)
    | some _ => none

def openTable : Option Toml → Option Toml
  | none => some (.table .header [])
  | some (.table .implied es) => some (.table .header es)
  | some _ => none

def openElement : Option Toml → Option Toml
  | none => some (.tables [[]])
  | some (.tables ts) => some (.tables (ts ++ [[]]))
  | some _ => none

def putInto (key : List String) (v : Toml) : Option Toml → Option Toml
  | some (.table .header es) => (put key v es).map (.table .header)
  | some (.tables ts) => (mapLast? (put key v) ts).map .tables
  | _ => none

inductive Statement
  | entry (key : List String) (value : Toml)
  | header (path : List String)
  | element (path : List String)

structure Document where
  root : Entries := []
  path : List String := []

namespace Document

def add (d : Document) : Statement → Option Document
  | .entry key v =>
    (if d.path.isEmpty then put key v d.root else alter (putInto key v) d.path d.root).map
      fun root => { d with root }
  | .header path => (alter openTable path d.root).map fun root => { root, path }
  | .element path => (alter openElement path d.root).map fun root => { root, path }

end Document

def ofStatements (ss : List Statement) : Option Toml :=
  (ss.foldlM Document.add {}).map fun d => .table .header d.root

end Toml

end GitLogin
