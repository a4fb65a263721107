import GitLogin.Form.Fields

namespace GitLogin

namespace Text

theorem nonBlank?_eq_some {s t : String} :
    nonBlank? s = some t ↔ s = t ∧ ¬t.toList.all isBlank := by
  by_cases hblank : s.toList.all isBlank
  · rw [nonBlank?, if_pos hblank]
    constructor
    · nofun
    · rintro ⟨rfl, hne⟩
      contradiction
  · rw [nonBlank?, if_neg hblank, Option.some.injEq]
    constructor
    · rintro rfl
      exact ⟨rfl, hblank⟩
    · exact And.left

theorem nonEmpty?_eq_some {s t : String} : nonEmpty? s = some t ↔ s = t ∧ t ≠ "" := by
  by_cases hempty : s = ""
  · subst hempty
    constructor
    · nofun
    · rintro ⟨rfl, hne⟩
      contradiction
  · rw [nonEmpty?, if_neg (by simpa using hempty), Option.some.injEq]
    constructor
    · rintro rfl
      exact ⟨rfl, hempty⟩
    · exact And.left

end Text

/-- What is absent from a credential is not there in another form, as blanks or an empty text. -/
structure Credential.Normal (c : Credential) : Prop where
  username : ∀ u, c.username = some u → ¬u.toList.all Text.isBlank
  secret : ∀ t, c.secret = some t → t ≠ ""

namespace Remote

variable {r : Remote} {c : Credential}

theorem defaultUsername_known {u : String} (hu : c.username = some u) :
    r.defaultUsername (some c) = some u := by
  simp [defaultUsername, hu]

theorem defaultUsername_unknown (hu : c.username = none) :
    r.defaultUsername (some c) = r.defaultUsername none := by
  simp [defaultUsername, hu]

theorem defaultUsername_key {file : String} (hkey : r.keyFile = some file) :
    r.defaultUsername none = none := by
  simp [defaultUsername, isKey, hkey]

end Remote

namespace Fields

theorem resolve_normal (f : Fields) (r : Remote) (s : Settings) : (f.resolve r s).Normal := by
  constructor
  · intro u hu
    change f.resolvedUsername r = some u at hu
    rw [resolvedUsername] at hu
    split at hu
    · exact (Text.nonBlank?_eq_some.1 hu).2
    · exact (Text.nonBlank?_eq_some.1 hu).2
  · intro t ht
    simp only [resolve, Option.orElse_eq_orElse, Option.orElse_eq_or] at ht
    rcases Option.or_eq_some_iff.1 ht with ht | ⟨-, ht⟩
    · exact (Text.nonEmpty?_eq_some.1 ht).2
    · obtain ⟨u, -, ht⟩ := Option.bind_eq_some_iff.1 ht
      exact (Text.nonEmpty?_eq_some.1 ht).2

def prefilled (c : Credential) (r : Remote) (s : Settings) : Fields :=
  seed (.of r (some c) s) (some c)

theorem resolve_secret (f : Fields) (r : Remote) (s : Settings) :
    (f.resolve r s).secret = (Text.nonEmpty? f.secret).or
      ((f.resolve r s).username.bind fun _ => s.placeholder? r.provider) :=
  Option.orElse_eq_or

variable {c : Credential}

theorem nonEmpty?_prefilled (hc : c.Normal) (r : Remote) (s : Settings) :
    Text.nonEmpty? (prefilled c r s).secret = c.secret := by
  change Text.nonEmpty? (c.secret.getD "") = c.secret
  cases ht : c.secret with
  | none => rfl
  | some t => exact Text.nonEmpty?_eq_some.2 ⟨rfl, hc.secret t ht⟩

theorem resolvedUsername_prefilled (f : Fields) (r : Remote) (s : Settings) :
    (prefilled (f.resolve r s) r s).resolvedUsername r =
      (f.resolve r s).username.or ((r.defaultUsername none).bind Text.nonBlank?) := by
  have hc := f.resolve_normal r s
  have hname : (f.resolve r s).username = f.resolvedUsername r := rfl
  cases hkey : r.keyFile with
  | some file =>
    have hbase (g : Fields) : g.resolvedUsername r = Text.nonBlank? (Text.baseName file) := by
      simp only [resolvedUsername, hkey]
    rw [hname, hbase, hbase, Remote.defaultUsername_key hkey]
    exact Option.or_none.symm
  | none =>
    have htyped : (prefilled (f.resolve r s) r s).resolvedUsername r =
        Text.nonBlank? ((r.defaultUsername (some (f.resolve r s))).getD "") := by
      simp only [resolvedUsername, hkey]
      rfl
    rw [htyped]
    cases hu : (f.resolve r s).username with
    | some u =>
      rw [Remote.defaultUsername_known hu, Option.some_or]
      exact Text.nonBlank?_eq_some.2 ⟨rfl, hc.username u hu⟩
    | none =>
      rw [Remote.defaultUsername_unknown hu, Option.none_or]
      cases r.defaultUsername none with
      | none => rfl
      | some owner => rfl

theorem resolve_prefilled_eq (f : Fields) (r : Remote) (s : Settings) :
    (prefilled (f.resolve r s) r s).resolve r s = f.resolve r s ↔
      (f.resolve r s).username.isSome ∨ (r.defaultUsername none).bind Text.nonBlank? = none := by
  -- only an absent username can come back as another one: the one that the remote tells
  let c := f.resolve r s
  have hsecret : c.secret.or (c.username.bind fun _ => s.placeholder? r.provider) = c.secret := by
    rw [show c.secret = _ from f.resolve_secret r s, Option.or_assoc, Option.or_self]
  have heq : (prefilled c r s).resolve r s =
      ⟨c.username.or ((r.defaultUsername none).bind Text.nonBlank?), c.secret.or
        ((c.username.or ((r.defaultUsername none).bind Text.nonBlank?)).bind fun _ =>
          s.placeholder? r.provider)⟩ := by
    rw [resolve, resolvedUsername_prefilled, nonEmpty?_prefilled (f.resolve_normal r s)]
    exact congrArg _ Option.orElse_eq_or
  change (prefilled c r s).resolve r s = c ↔ c.username.isSome ∨ _
  rw [heq]
  constructor
  · intro h
    have husername := congrArg Credential.username h
    cases hu : c.username with
    | some u => exact .inl rfl
    | none =>
      rw [hu, Option.none_or] at husername
      exact .inr husername
  · intro h
    have husername : c.username.or ((r.defaultUsername none).bind Text.nonBlank?) = c.username := by
      rcases h with hu | hnone
      · obtain ⟨u, hu⟩ := Option.isSome_iff_exists.1 hu
        rw [hu, Option.some_or]
      · rw [hnone, Option.or_none]
    rw [husername, hsecret]

end Fields

/-- A credential that a form gives has no blank username and no empty secret, and it gives itself
when it fills in the next form, unless it has no username and the remote tells one. -/
theorem resolve_prefilled (f : Fields) (r : Remote) (s : Settings) :
    let c := f.resolve r s
    let again := (Fields.seed (.of r (some c) s) (some c)).resolve r s
    (∀ u, c.username = some u → ¬u.toList.all Text.isBlank) ∧
    (∀ t, c.secret = some t → t ≠ "") ∧
    (c.username.isSome ∨ r.defaultUsername none = none → again = c) ∧
    (again = c ↔ c.username.isSome ∨ (r.defaultUsername none).bind Text.nonBlank? = none) := by
  intro c again
  have hnormal : c.Normal := f.resolve_normal r s
  have hagain : again = c ↔ _ := f.resolve_prefilled_eq r s
  refine ⟨hnormal.username, hnormal.secret, ?_, hagain⟩
  rintro (hu | hnone)
  · exact hagain.2 (.inl hu)
  · exact hagain.2 (.inr (by rw [hnone, Option.bind_none]))

theorem resolve_prefilled_placeholder :
    let r : Remote := ⟨"https://github.com/octocat/x", some "github.com", some "/octocat/x", none⟩
    let c := Fields.resolve ⟨" bob", ""⟩ r {}
    c = ⟨some " bob", some "x-oauth-basic"⟩ ∧
      (Fields.seed (.of r (some c) {}) (some c)).resolve r {} = c :=
  ⟨by decide, (resolve_prefilled ⟨" bob", ""⟩ _ {}).2.2.1 (.inl (by decide))⟩

end GitLogin
