import GitLogin.Settings
import GitLogin.Toml

namespace GitLogin

namespace Toml

def string? : Toml → Option String
  | .string s => some s
  | _ => none

def natBelow? (bound : Nat) : Toml → Option Nat
  | .integer n => if 0 ≤ n ∧ n < bound then some n.toNat else none
  | _ => none

/-- The fields of a record by name. They may be written as an array in their order, of which the
end may be left out; a moment in time has none of them. -/
def record? (names : List String) : Toml → Option (String → Option Toml)
  | .table _ es => some fun name => es.lookup name
  | .array vs => some fun name => vs[names.idxOf name]?
  | .tables ts => some fun name => ts[names.idxOf name]?.map (.table .header)
  | .moment _ => some fun _ => none
  | _ => none

end Toml

def fieldOr {α : Type} (default : α) (decode : Toml → Option α) (v : Option Toml) : Option α :=
  match v with
  | none => some default
  | some v => decode v

namespace Settings

def defaults : Settings := {}

def titleAndWidth? (v : Toml) : Option (String × Nat) := do
  let field ← v.record? ["title", "uri_display_width"]
  let title ← fieldOr defaults.title Toml.string? (field "title")
  let width ← fieldOr defaults.uriWidth (Toml.natBelow? (Nat.pow 2 63)) (field "uri_display_width")
  pure (title, width)

def placeholderOf? (v : Toml) : Option String := do
  let field ← v.record? ["sentinel_secret"]
  fieldOr (defaults.placeholder .other) Toml.string? (field "sentinel_secret")

def placeholders? (v : Toml) : Option (String × String × String) := do
  let field ← v.record? ["github", "bitbucket", "other"]
  let gitHub ← fieldOr defaults.gitHub placeholderOf? (field "github")
  let bitbucket ← fieldOr defaults.bitbucket placeholderOf? (field "bitbucket")
  let other ← fieldOr defaults.other placeholderOf? (field "other")
  pure (gitHub, bitbucket, other)

def attempts? (v : Toml) : Option Nat := do
  let field ← v.record? ["max_attempts"]
  fieldOr defaults.maxAttempts (Toml.natBelow? (Nat.pow 2 32)) (field "max_attempts")

def ofToml? (v : Toml) : Option Settings := do
  let field ← v.record? ["prompt", "providers", "terminal"]
  let (title, uriWidth) ←
    fieldOr (defaults.title, defaults.uriWidth) titleAndWidth? (field "prompt")
  let (gitHub, bitbucket, other) ←
    fieldOr (defaults.gitHub, defaults.bitbucket, defaults.other) placeholders? (field "providers")
  let maxAttempts ← fieldOr defaults.maxAttempts attempts? (field "terminal")
  pure { title, uriWidth, maxAttempts, gitHub, bitbucket, other }

end Settings

end GitLogin
