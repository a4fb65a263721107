import GitLogin.Proofs.Names
import GitLogin.Settings.File
import Mathlib.Logic.Relation

/-!
A settings file as an overlay on the defaults. `load_overlay`: each setting has the value that the
document gives for it, or its default, whatever else is in the document and in whatever order.
-/

namespace GitLogin

inductive Setting
  | title
  | uriWidth
  | maxAttempts
  | placeholder (p : Provider)
  deriving DecidableEq

namespace Setting

def path : Setting → List String
  | .title => ["prompt", "title"]
  | .uriWidth => ["prompt", "uri_display_width"]
  | .maxAttempts => ["terminal", "max_attempts"]
  | .placeholder .gitHub => ["providers", "github", "sentinel_secret"]
  | .placeholder .bitbucket => ["providers", "bitbucket", "sentinel_secret"]
  | .placeholder .other => ["providers", "other", "sentinel_secret"]

def Accepts : Setting → Toml → Prop
  | .title, v => ∃ text, v = .string text
  | .uriWidth, v => ∃ n : Nat, v = .integer n ∧ n < Nat.pow 2 63
  | .maxAttempts, v => ∃ n : Nat, v = .integer n ∧ n < Nat.pow 2 32
  | .placeholder _, v => ∃ text, v = .string text

def value (s : Settings) : Setting → Toml
  | .title => .string s.title
  | .uriWidth => .integer s.uriWidth
  | .maxAttempts => .integer s.maxAttempts
  | .placeholder p => .string (s.placeholder p)

/-- Whether settings have the value that is given for one of them, or its default. -/
def Follows (s : Settings) (k : Setting) (given : Option Toml) : Prop :=
  match given with
  | none => k.value s = k.value Settings.defaults
  | some v => k.Accepts v ∧ k.value s = v

def sections : List (List String) :=
  [["prompt"], ["providers"], ["providers", "github"], ["providers", "bitbucket"],
    ["providers", "other"], ["terminal"]]

/-- Whether a name means something in the table that a path leads to. -/
def Known (path : List String) (name : String) : Prop := ∃ k : Setting, path ++ [name] <+: k.path

end Setting

namespace Toml

def IsTable (v : Toml) : Prop := ∃ origin es, v = .table origin es

inductive IsArray : Toml → Prop
  | values {vs : List Toml} : IsArray (.array vs)
  | tables {ts : List Entries} : IsArray (.tables ts)

theorem IsArray.not_isTable {v : Toml} (h : IsArray v) : ¬v.IsTable := by
  rintro ⟨origin, es, rfl⟩
  cases h

inductive Leads : Toml → List String → Toml → Prop
  | here {v : Toml} : Leads v [] v
  | under {origin : Origin} {es : Entries} {name : String} {path : List String} {v w : Toml} :
      (name, v) ∈ es → Leads v path w → Leads (.table origin es) (name :: path) w

def at? : List String → Toml → Option Toml
  | [], v => some v
  | name :: path, .table _ es => (es.lookup name).bind (at? path)
  | _ :: _, _ => none

theorem at?_eq_some {v w : Toml} {path : List String} (hv : v.Distinct) :
    at? path v = some w ↔ Leads v path w := by
  induction path generalizing v with
  | nil =>
    rw [at?, Option.some.injEq]
    constructor
    · rintro rfl
      exact .here
    · intro h
      cases h
      rfl
  | cons name path ih =>
    cases hv with
    | @table origin es hnames hvalues =>
      simp only [at?, Option.bind_eq_some_iff, lookup_eq_some hnames]
      constructor
      · rintro ⟨u, hu, h⟩
        exact .under hu ((ih (hvalues _ hu)).1 h)
      · intro h
        cases h with
        | @under _ _ _ _ u _ hu h => exact ⟨u, hu, (ih (hvalues _ hu)).2 h⟩
    | other hother =>
      constructor
      · intro h
        cases v <;> simp_all [at?]
      · intro h
        cases h
        exact absurd rfl (hother _ _)

/-- Changes of a document that say nothing about a setting. How a table came to be is no part of
what it says, and no name in an array is known. -/
inductive Edit : List String → Toml → Toml → Prop
  | reorder {path : List String} {origin origin' : Origin} {es es' : Entries} : es.Perm es' →
      Edit path (.table origin es) (.table origin' es')
  | add {path : List String} {origin : Origin} {before after : Entries} {name : String} {v : Toml} :
      ¬Setting.Known path name →
      Edit path (.table origin (before ++ after)) (.table origin (before ++ (name, v) :: after))
  | remove {path : List String} {origin : Origin} {before after : Entries} {name : String}
      {v : Toml} : ¬Setting.Known path name →
      Edit path (.table origin (before ++ (name, v) :: after)) (.table origin (before ++ after))
  | within {path : List String} {origin : Origin} {before after : Entries} {name : String}
      {v v' : Toml} : Edit (path ++ [name]) v v' →
      Edit path (.table origin (before ++ (name, v) :: after))
        (.table origin (before ++ (name, v') :: after))
  | array {path : List String} {v v' : Toml} : IsArray v → IsArray v' → Edit path v v'

theorem Edit.symm {path : List String} {v v' : Toml} (h : Edit path v v') : Edit path v' v := by
  induction h with
  | reorder h => exact .reorder h.symm
  | add h => exact .remove h
  | remove h => exact .add h
  | within _ ih => exact .within ih
  | array h h' => exact .array h' h

inductive Similar : Toml → Toml → Prop
  | refl (v : Toml) : Similar v v
  | tables {v w : Toml} : v.IsTable → w.IsTable → Similar v w
  | arrays {v w : Toml} : v.IsArray → w.IsArray → Similar v w

theorem Similar.trans {u v w : Toml} (h : Similar u v) (h' : Similar v w) : Similar u w := by
  cases h with
  | refl => exact h'
  | tables hu hv =>
    cases h' with
    | refl => exact .tables hu hv
    | tables _ hw => exact .tables hu hw
    | arrays hv' _ => exact absurd hv hv'.not_isTable
  | arrays hu hv =>
    cases h' with
    | refl => exact .arrays hu hv
    | tables hv' _ => exact absurd hv' hv.not_isTable
    | arrays _ hw => exact .arrays hu hw

theorem similar_table (origin origin' : Origin) (es es' : Entries) :
    Similar (.table origin es) (.table origin' es') := .tables ⟨_, _, rfl⟩ ⟨_, _, rfl⟩

theorem Edit.leads {path names : List String} {k : Setting} {v v' w : Toml} (h : Edit path v v')
    (hk : path ++ names <+: k.path) (hw : Leads v names w) :
    ∃ w', Leads v' names w' ∧ Similar w w' := by
  induction h generalizing names with
  | reorder hperm =>
    cases hw with
    | here => exact ⟨_, .here, similar_table _ _ _ _⟩
    | under hmem hw => exact ⟨w, .under (hperm.mem_iff.1 hmem) hw, .refl w⟩
  | add _ =>
    cases hw with
    | here => exact ⟨_, .here, similar_table _ _ _ _⟩
    | under hmem hw =>
      refine ⟨w, .under ?_ hw, .refl w⟩
      rw [List.mem_append] at hmem ⊢
      exact hmem.imp_right (List.mem_cons_of_mem _)
  | @remove path origin before after name u hunknown =>
    cases hw with
    | here => exact ⟨_, .here, similar_table _ _ _ _⟩
    | @under _ _ name' names _ _ hmem hw =>
      refine ⟨w, .under ?_ hw, .refl w⟩
      rw [List.mem_append, List.mem_cons] at hmem
      rw [List.mem_append]
      rcases hmem with hmem | heq | hmem
      · exact .inl hmem
      · -- the removed entry is not on the way to a setting
        cases heq
        refine absurd ⟨k, ?_⟩ hunknown
        exact List.IsPrefix.trans (by simp) hk
      · exact .inr hmem
  | @within path origin before after name u u' _ ih =>
    cases hw with
    | here => exact ⟨_, .here, similar_table _ _ _ _⟩
    | @under _ _ name' names _ _ hmem hw =>
      rw [List.mem_append, List.mem_cons] at hmem
      rcases hmem with hmem | heq | hmem
      · exact ⟨w, .under (List.mem_append_left _ hmem) hw, .refl w⟩
      · cases heq
        obtain ⟨w', hw', hsimilar⟩ := ih (by simpa using hk) hw
        exact ⟨w', .under (by simp) hw', hsimilar⟩
      · exact ⟨w, .under (List.mem_append_right _ (List.mem_cons_of_mem _ hmem)) hw, .refl w⟩
  | array hv hv' =>
    cases hw with
    | here => exact ⟨_, .here, .arrays hv hv'⟩
    | under _ _ => exact absurd ⟨_, _, rfl⟩ hv.not_isTable

def Variant : Toml → Toml → Prop := Relation.ReflTransGen (Edit [])

theorem Variant.symm {v v' : Toml} (h : Variant v v') : Variant v' v := by
  induction h with
  | refl => exact .refl
  | tail _ hedit ih => exact .head hedit.symm ih

theorem Variant.leads {names : List String} {k : Setting} {v v' w : Toml} (h : Variant v v')
    (hk : names <+: k.path) (hw : Leads v names w) : ∃ w', Leads v' names w' ∧ Similar w w' := by
  induction h with
  | refl => exact ⟨w, hw, .refl w⟩
  | tail _ hedit ih =>
    obtain ⟨u, hu, hsimilar⟩ := ih
    obtain ⟨w', hw', hsimilar'⟩ := hedit.leads hk hu
    exact ⟨w', hw', hsimilar.trans hsimilar'⟩

end Toml

section Decoding

open Toml Settings

variable {given : Option Toml} {s : Settings} {es : Entries} {origin : Origin}

theorem fieldOr_string {default text : String} : fieldOr default string? given = some text ↔
    given = none ∧ text = default ∨ given = some (.string text) := by
  cases given with
  | none => simp [fieldOr, eq_comm]
  | some v => cases v <;> simp [fieldOr, string?]

theorem fieldOr_nat {default bound n : Nat} : fieldOr default (natBelow? bound) given = some n ↔
    given = none ∧ n = default ∨ given = some (.integer n) ∧ n < bound := by
  cases given with
  | none => simp [fieldOr, eq_comm]
  | some v =>
    cases v with
    | integer m =>
      simp only [fieldOr, natBelow?, reduceCtorEq, false_and, false_or, Option.some.injEq,
        Toml.integer.injEq]
      constructor
      · intro h
        split at h
        · cases h
          omega
        · cases h
      · rintro ⟨rfl, hn⟩
        rw [if_pos (by omega)]
        simp
    | _ => simp [fieldOr, natBelow?]

namespace Setting

theorem follows_iff {k : Setting} : Follows s k given ↔
    given = none ∧ k.value s = k.value defaults ∨
      given = some (k.value s) ∧ k.Accepts (k.value s) := by
  cases given with
  | none => simp [Follows]
  | some v =>
    simp only [Follows, reduceCtorEq, false_and, false_or, Option.some.injEq]
    constructor
    · rintro ⟨hv, rfl⟩
      exact ⟨rfl, hv⟩
    · rintro ⟨rfl, hv⟩
      exact ⟨hv, rfl⟩

theorem follows_title : Follows s .title given ↔
    fieldOr defaults.title string? given = some s.title := by
  rw [follows_iff, fieldOr_string]
  simp [value, Accepts]

theorem integer_inj {m n : Nat} : Toml.integer m = .integer n ↔ m = n := by
  rw [Toml.integer.injEq, Int.natCast_inj]

theorem follows_uriWidth : Follows s .uriWidth given ↔
    fieldOr defaults.uriWidth (natBelow? (Nat.pow 2 63)) given = some s.uriWidth := by
  rw [follows_iff, fieldOr_nat]
  simp only [value, Accepts, integer_inj, exists_eq_left']

theorem follows_maxAttempts : Follows s .maxAttempts given ↔
    fieldOr defaults.maxAttempts (natBelow? (Nat.pow 2 32)) given = some s.maxAttempts := by
  rw [follows_iff, fieldOr_nat]
  simp only [value, Accepts, integer_inj, exists_eq_left']

theorem follows_placeholder {p : Provider} : Follows s (.placeholder p) given ↔
    fieldOr (defaults.placeholder p) string? given = some (s.placeholder p) := by
  rw [follows_iff, fieldOr_string]
  simp [value, Accepts]

end Setting

@[simp] theorem at?_name (name : String) (origin : Origin) (es : Entries) :
    at? [name] (.table origin es) = es.lookup name := by
  rw [at?]
  cases es.lookup name <;> rfl

theorem at?_append (path path' : List String) (v : Toml) :
    at? (path ++ path') v = (at? path v).bind (at? path') := by
  induction path generalizing v with
  | nil => rfl
  | cons name path ih =>
    cases v with
    | table origin es =>
      rw [List.cons_append, at?, at?, Option.bind_assoc]
      exact Option.bind_congr fun w _ => ih w
    | _ => rfl

namespace Settings

theorem fieldOr_titleAndWidth (htable : ∀ v ∈ given, v.IsTable) {title : String} {width : Nat} :
    fieldOr (defaults.title, defaults.uriWidth) titleAndWidth? given = some (title, width) ↔
      fieldOr defaults.title string? (given.bind (at? ["title"])) = some title ∧
      fieldOr defaults.uriWidth (natBelow? (Nat.pow 2 63))
        (given.bind (at? ["uri_display_width"])) = some width := by
  cases given with
  | none => simp [fieldOr]
  | some v =>
    obtain ⟨origin, es, rfl⟩ := htable v rfl
    simp [fieldOr, titleAndWidth?, record?, Option.bind_eq_some_iff]

theorem fieldOr_placeholderOf (p : Provider) (htable : ∀ v ∈ given, v.IsTable) :
    fieldOr (defaults.placeholder p) placeholderOf? given =
      fieldOr (defaults.placeholder p) string? (given.bind (at? ["sentinel_secret"])) := by
  have hdefault : defaults.placeholder p = defaults.placeholder .other := by cases p <;> rfl
  cases given with
  | none => rfl
  | some v =>
    obtain ⟨origin, es, rfl⟩ := htable v rfl
    simp [fieldOr, placeholderOf?, record?, hdefault]

theorem fieldOr_placeholders (htable : ∀ v ∈ given, v.IsTable) {gitHub bitbucket other : String} :
    fieldOr (defaults.gitHub, defaults.bitbucket, defaults.other) placeholders? given =
        some (gitHub, bitbucket, other) ↔
      fieldOr defaults.gitHub placeholderOf? (given.bind (at? ["github"])) = some gitHub ∧
      fieldOr defaults.bitbucket placeholderOf? (given.bind (at? ["bitbucket"])) = some bitbucket ∧
      fieldOr defaults.other placeholderOf? (given.bind (at? ["other"])) = some other := by
  cases given with
  | none => simp [fieldOr]
  | some v =>
    obtain ⟨origin, es, rfl⟩ := htable v rfl
    simp [fieldOr, placeholders?, record?, Option.bind_eq_some_iff]

theorem fieldOr_attempts (htable : ∀ v ∈ given, v.IsTable) :
    fieldOr defaults.maxAttempts attempts? given =
      fieldOr defaults.maxAttempts (natBelow? (Nat.pow 2 32))
        (given.bind (at? ["max_attempts"])) := by
  cases given with
  | none => rfl
  | some v =>
    obtain ⟨origin, es, rfl⟩ := htable v rfl
    simp [fieldOr, attempts?, record?]

theorem ofToml?_table : ofToml? (.table origin es) = some s ↔
    fieldOr (defaults.title, defaults.uriWidth) titleAndWidth? (es.lookup "prompt") =
        some (s.title, s.uriWidth) ∧
      fieldOr (defaults.gitHub, defaults.bitbucket, defaults.other) placeholders?
        (es.lookup "providers") = some (s.gitHub, s.bitbucket, s.other) ∧
      fieldOr defaults.maxAttempts attempts? (es.lookup "terminal") = some s.maxAttempts := by
  simp only [ofToml?, record?, Option.bind_eq_bind, Option.bind_some, Option.bind_eq_some_iff,
    Option.pure_def]
  constructor
  · rintro ⟨⟨title, uriWidth⟩, hprompt, ⟨gitHub, bitbucket, other⟩, hproviders, maxAttempts,
      hterminal, h⟩
    cases h
    exact ⟨hprompt, hproviders, hterminal⟩
  · rintro ⟨hprompt, hproviders, hterminal⟩
    exact ⟨_, hprompt, _, hproviders, _, hterminal, rfl⟩

theorem ofToml?_eq_some
    (hsections : ∀ path ∈ Setting.sections, ∀ w ∈ at? path (.table origin es), w.IsTable) :
    ofToml? (.table origin es) = some s ↔
      ∀ k : Setting, Setting.Follows s k (at? k.path (.table origin es)) := by
  have hprompt := hsections ["prompt"] (by simp [Setting.sections])
  have hproviders := hsections ["providers"] (by simp [Setting.sections])
  have hterminal := hsections ["terminal"] (by simp [Setting.sections])
  have hgitHub := hsections ["providers", "github"] (by simp [Setting.sections])
  have hbitbucket := hsections ["providers", "bitbucket"] (by simp [Setting.sections])
  have hother := hsections ["providers", "other"] (by simp [Setting.sections])
  rw [at?_name] at hprompt hproviders hterminal
  have hplaceholder (p : Provider) {path : List String}
      (htable : ∀ w ∈ at? path (.table origin es), w.IsTable) :
      fieldOr (defaults.placeholder p) placeholderOf? (at? path (.table origin es)) =
          some (s.placeholder p) ↔
        Setting.Follows s (.placeholder p)
          (at? (path ++ ["sentinel_secret"]) (.table origin es)) := by
    rw [Setting.follows_placeholder, at?_append, fieldOr_placeholderOf p htable]
  rw [ofToml?_table, fieldOr_titleAndWidth hprompt, fieldOr_placeholders hproviders,
    fieldOr_attempts hterminal]
  constructor
  · rintro ⟨⟨htitle, hwidth⟩, ⟨hg, hb, ho⟩, hattempts⟩ k
    cases k with
    | title => exact Setting.follows_title.2 htitle
    | uriWidth => exact Setting.follows_uriWidth.2 hwidth
    | maxAttempts => exact Setting.follows_maxAttempts.2 hattempts
    | placeholder p =>
      cases p with
      | gitHub => exact (hplaceholder .gitHub hgitHub).1 hg
      | bitbucket => exact (hplaceholder .bitbucket hbitbucket).1 hb
      | other => exact (hplaceholder .other hother).1 ho
  · intro h
    refine ⟨⟨Setting.follows_title.1 (h .title), Setting.follows_uriWidth.1 (h .uriWidth)⟩,
      ⟨?_, ?_, ?_⟩, Setting.follows_maxAttempts.1 (h .maxAttempts)⟩
    · exact (hplaceholder .gitHub hgitHub).2 (h (.placeholder .gitHub))
    · exact (hplaceholder .bitbucket hbitbucket).2 (h (.placeholder .bitbucket))
    · exact (hplaceholder .other hother).2 (h (.placeholder .other))

end Settings

namespace Setting

theorem follows_congr {k : Setting} {s' : Settings} (h : k.value s = k.value s') :
    Follows s k given ↔ Follows s' k given := by
  rw [follows_iff, follows_iff, h]

theorem exists_value {k : Setting} {v : Toml} (h : k.Accepts v) : ∃ s, k.value s = v := by
  cases k with
  | title =>
    obtain ⟨text, rfl⟩ := h
    exact ⟨{ title := text }, rfl⟩
  | uriWidth =>
    obtain ⟨n, rfl, -⟩ := h
    exact ⟨{ uriWidth := n }, rfl⟩
  | maxAttempts =>
    obtain ⟨n, rfl, -⟩ := h
    exact ⟨{ maxAttempts := n }, rfl⟩
  | placeholder p =>
    obtain ⟨text, rfl⟩ := h
    exact ⟨{ gitHub := text, bitbucket := text, other := text }, by cases p <;> rfl⟩

theorem exists_follows {givens : Setting → Option Toml} :
    (∃ s, ∀ k, Follows s k (givens k)) ↔ ∀ k, ∀ v ∈ givens k, k.Accepts v := by
  constructor
  · rintro ⟨s, hs⟩ k v hv
    have hk := hs k
    rw [hv] at hk
    exact hk.1
  · intro h
    have hone (k : Setting) : ∃ s, Follows s k (givens k) := by
      cases hk : givens k with
      | none => exact ⟨defaults, rfl⟩
      | some v =>
        obtain ⟨s, hs⟩ := exists_value (h k v hk)
        exact ⟨s, h k v hk, hs⟩
    choose f hf using hone
    refine ⟨{ title := (f .title).title, uriWidth := (f .uriWidth).uriWidth,
              maxAttempts := (f .maxAttempts).maxAttempts,
              gitHub := (f (.placeholder .gitHub)).gitHub,
              bitbucket := (f (.placeholder .bitbucket)).bitbucket,
              other := (f (.placeholder .other)).other }, fun k => ?_⟩
    refine (follows_congr ?_).2 (hf k)
    cases k with
    | placeholder p => cases p <;> rfl
    | _ => rfl

theorem Accepts.cases {k : Setting} {v : Toml} (h : k.Accepts v) :
    (∃ text, v = .string text) ∨ ∃ n, v = .integer n := by
  cases k with
  | title => exact .inl h
  | uriWidth =>
    obtain ⟨n, hn, -⟩ := h
    exact .inr ⟨n, hn⟩
  | maxAttempts =>
    obtain ⟨n, hn, -⟩ := h
    exact .inr ⟨n, hn⟩
  | placeholder p => exact .inl h

theorem eq_of_similar {k : Setting} {v w : Toml} (hv : k.Accepts v) (h : Similar v w) : v = w := by
  cases h with
  | refl => rfl
  | tables htable _ =>
    obtain ⟨origin, es, rfl⟩ := htable
    simpa using hv.cases
  | arrays harray _ => cases harray <;> simpa using hv.cases

theorem exists_of_mem_sections {path : List String} (h : path ∈ sections) :
    ∃ k : Setting, path <+: k.path := by
  simp only [sections, List.mem_cons, List.not_mem_nil, or_false] at h
  rcases h with rfl | rfl | rfl | rfl | rfl | rfl
  · exact ⟨.title, by simp [Setting.path]⟩
  · exact ⟨.placeholder .gitHub, by simp [Setting.path]⟩
  · exact ⟨.placeholder .gitHub, by simp [Setting.path]⟩
  · exact ⟨.placeholder .bitbucket, by simp [Setting.path]⟩
  · exact ⟨.placeholder .other, by simp [Setting.path]⟩
  · exact ⟨.maxAttempts, by simp [Setting.path]⟩

end Setting

section Variants

variable {v v' : Toml}

theorem Toml.Variant.isTable (h : Variant v v')
    (hsections : ∀ path ∈ Setting.sections, ∀ w, Leads v path w → w.IsTable) :
    ∀ path ∈ Setting.sections, ∀ w, Leads v' path w → w.IsTable := by
  intro path hpath w hw
  obtain ⟨k, hk⟩ := Setting.exists_of_mem_sections hpath
  obtain ⟨u, hu, hsimilar⟩ := h.symm.leads hk hw
  have htable := hsections path hpath u hu
  cases hsimilar with
  | refl => exact htable
  | tables hw _ => exact hw
  | arrays _ hu => exact absurd htable hu.not_isTable

theorem Toml.Variant.follows (h : Variant v v') (hv : v.Distinct) (hv' : v'.Distinct) {k : Setting}
    (hs : Setting.Follows s k (at? k.path v)) : Setting.Follows s k (at? k.path v') := by
  cases hgiven : at? k.path v with
  | none =>
    have hnone : at? k.path v' = none := by
      rw [Option.eq_none_iff_forall_ne_some]
      intro w hw
      obtain ⟨u, hu, -⟩ := h.symm.leads (List.prefix_refl _) ((at?_eq_some hv').1 hw)
      rw [(at?_eq_some hv).2 hu] at hgiven
      cases hgiven
    rw [hgiven] at hs
    rwa [hnone]
  | some w =>
    rw [hgiven] at hs
    obtain ⟨u, hu, hsimilar⟩ := h.leads (List.prefix_refl _) ((at?_eq_some hv).1 hgiven)
    obtain rfl := Setting.eq_of_similar hs.1 hsimilar
    rwa [(at?_eq_some hv').2 hu]

end Variants

section Load

variable [TomlParser] {bytes : List UInt8} {text : String} {v : Toml}

theorem load_ok (hbytes : Text.Utf8.decode bytes = some text)
    (hv : TomlParser.parse? text = some v) :
    load (.ok bytes) = (ofToml? v).elim (.error .parse) .ok := by
  rw [load.eq_def]
  simp only [hbytes, ofText, hv, Option.bind_some]
  cases ofToml? v <;> rfl

theorem ofToml?_parsed (hnames : NamesDistinct) (hv : TomlParser.parse? text = some v)
    (hsections : ∀ path ∈ Setting.sections, ∀ w, Leads v path w → w.IsTable) :
    v.Distinct ∧ ∀ s, ofToml? v = some s ↔ ∀ k : Setting, Setting.Follows s k (at? k.path v) := by
  obtain ⟨origin, es, rfl, hes⟩ := hnames text v hv
  have hdistinct : (Toml.table origin es).Distinct := distinct_table.2 hes
  refine ⟨hdistinct, fun s => ofToml?_eq_some fun path hpath w hw => ?_⟩
  exact hsections path hpath w ((at?_eq_some hdistinct).1 hw)

end Load

end Decoding

open Setting Toml in
/-- A document whose sections are tables is an overlay on the defaults. It can be loaded exactly if
every setting that it has is of its kind; each setting is then the one in the document, or else its
default. Another document that differs in the order of names, or in names that are unknown where
they stand, is loaded with the same result. -/
theorem load_overlay [TomlParser] (hnames : NamesDistinct) {bytes : List UInt8} {text : String}
    {v : Toml} (hbytes : Text.Utf8.decode bytes = some text)
    (hv : TomlParser.parse? text = some v)
    (hsections : ∀ path ∈ sections, ∀ w, Leads v path w → w.IsTable) :
    let result := Settings.load (.ok bytes)
    ((∃ s, result = .ok s) ↔ ∀ (k : Setting) w, Leads v k.path w → k.Accepts w) ∧
    (∀ s, result = .ok s → ∀ k : Setting, (∀ w, Leads v k.path w → k.value s = w) ∧
      ((∀ w, ¬Leads v k.path w) → k.value s = k.value Settings.defaults)) ∧
    (∀ bytes' text' v', Text.Utf8.decode bytes' = some text' →
      TomlParser.parse? text' = some v' → Variant v v' → Settings.load (.ok bytes') = result) := by
  intro result
  obtain ⟨hdistinct, hdecode⟩ := ofToml?_parsed hnames hv hsections
  have hresult (s : Settings) : result = .ok s ↔ ∀ k : Setting, Follows s k (at? k.path v) := by
    rw [← hdecode, show result = _ from load_ok hbytes hv]
    cases Settings.ofToml? v <;> simp
  refine ⟨?_, ?_, ?_⟩
  · simp only [hresult, exists_follows, Option.mem_def, at?_eq_some hdistinct]
  · intro s hs k
    have hk := (hresult s).1 hs k
    constructor
    · intro w hw
      rw [(at?_eq_some hdistinct).2 hw] at hk
      exact hk.2
    · intro hnone
      have hgiven : at? k.path v = none := by
        rw [Option.eq_none_iff_forall_ne_some]
        exact fun w hw => hnone w ((at?_eq_some hdistinct).1 hw)
      rw [hgiven] at hk
      exact hk
  · intro bytes' text' v' hbytes' hv' hvariant
    obtain ⟨hdistinct', hdecode'⟩ := ofToml?_parsed hnames hv' (hvariant.isTable hsections)
    -- settings follow the one document exactly if they follow the other
    have heq : Settings.ofToml? v' = Settings.ofToml? v := by
      ext s
      rw [hdecode, hdecode']
      exact forall_congr' fun k => ⟨hvariant.symm.follows hdistinct' hdistinct,
        hvariant.follows hdistinct hdistinct'⟩
    rw [load_ok hbytes' hv', heq]
    exact (load_ok hbytes hv).symm

open Setting Toml in
set_option maxRecDepth 10000 in
theorem load_overlay_partial :
    let bytes := Text.Utf8.encode "[x]\n[terminal]\nmax_attempts=5"
    let bytes' := Text.Utf8.encode "terminal.max_attempts=5"
    ∃ s, Settings.load (.ok bytes) = .ok s ∧ maxAttempts.value s = .integer 5 ∧
      title.value s = title.value Settings.defaults ∧ Settings.load (.ok bytes') = .ok s := by
  -- one setting under a header beside an unknown table, and the same setting alone under a dotted
  -- name
  intro bytes bytes'
  let v : Toml := .table .header [("x", .table .header []),
    ("terminal", .table .header [("max_attempts", .integer 5)])]
  let v' : Toml := .table .header [("terminal", .table .dotted [("max_attempts", .integer 5)])]
  have hv : parse? "[x]\n[terminal]\nmax_attempts=5" = some v := by with_unfolding_all rfl
  have hv' : parse? "terminal.max_attempts=5" = some v' := by with_unfolding_all rfl
  have hleads {path : List String} {w : Toml} : Leads v path w ↔ at? path v = some w := by
    obtain ⟨es, hes, hdistinct⟩ := distinct_of_parse hv
    rw [hes, at?_eq_some (distinct_table.2 hdistinct)]
  have hunknown : ¬Known [] "x" := by
    rintro ⟨k, hk⟩
    rcases k with _ | _ | _ | ⟨_ | _ | _⟩ <;> revert hk <;> decide
  have hvariant : Variant v v' := by
    refine .head (@Edit.remove _ _ [] _ _ _ hunknown) (.single ?_)
    exact @Edit.within _ _ [] _ _ _ _ (.reorder (.refl _))
  obtain ⟨hload, hvalue, hsame⟩ := load_overlay namesDistinct (Text.Utf8.decode_encode _) hv <| by
    intro path hpath w hw
    simp only [sections, List.mem_cons, List.not_mem_nil, or_false] at hpath
    rw [hleads] at hw
    rcases hpath with rfl | rfl | rfl | rfl | rfl | rfl <;> cases hw
    exact ⟨_, _, rfl⟩
  obtain ⟨s, hs⟩ := hload.2 <| by
    intro k w hw
    rw [hleads] at hw
    rcases k with _ | _ | _ | ⟨_ | _ | _⟩ <;> cases hw
    exact ⟨5, rfl, by decide⟩
  refine ⟨s, hs, ?_, ?_, (hsame _ _ _ (Text.Utf8.decode_encode _) hv' hvariant).trans hs⟩
  · exact (hvalue s hs .maxAttempts).1 _ (hleads.2 rfl)
  · refine (hvalue s hs .title).2 fun w hw => ?_
    rw [hleads] at hw
    cases hw

end GitLogin
