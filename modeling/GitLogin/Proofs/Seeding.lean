import GitLogin.Proofs.KeyFile
import GitLogin.Proofs.Prefill

namespace GitLogin

namespace Layout

structure Shows (l : Layout) (f : Fields) : Prop where
  username : ∀ field, l.usernameField = some field → field.initial = f.username
  secret : l.secretPrefilled = true ↔ f.secret ≠ ""

variable {r : Remote} {prior : Option Credential} {settings : Settings}

theorem initial_eq_seed {field : UsernameField}
    (h : (Layout.of r prior settings).usernameField = some field) :
    field.initial = (Fields.seed (.of r prior settings) prior).username := by
  simp only [of, Option.ite_none_left_eq_some, Option.some.injEq] at h
  obtain ⟨-, rfl⟩ := h
  rfl

theorem message_key {file : String} (hkey : r.keyFile = some file) :
    (Layout.of r prior settings).message =
      "Enter your password for the SSH key \"" ++ Text.baseName file ++ "\"" := by
  have hheader : headerFor r settings = .keyPassword (Text.baseName file) := by
    rw [headerFor, hkey]
  exact congrArg Wording.text hheader

theorem secretPrefilled_iff : (Layout.of r prior settings).secretPrefilled = true ↔
    (Fields.seed (.of r prior settings) prior).secret ≠ "" ∨
      prior.bind Credential.secret = some "" := by
  simp only [of, Fields.seed]
  cases prior.bind Credential.secret with
  | none => simp
  | some secret => simpa using Decidable.em (secret = "") |>.symm

theorem shows_seed_iff : (Layout.of r prior settings).Shows (.seed (.of r prior settings) prior) ↔
    prior.bind Credential.secret ≠ some "" := by
  -- the flag tells an empty secret from none, and the field does not
  constructor
  · intro h hempty
    have hseed : (Fields.seed (.of r prior settings) prior).secret = "" := by
      rw [Fields.seed, hempty, Option.getD_some]
    exact h.secret.1 (secretPrefilled_iff.2 (.inr hempty)) hseed
  · intro hne
    refine ⟨fun _ => initial_eq_seed, ?_⟩
    rw [secretPrefilled_iff, or_iff_left hne]

theorem shows_resolved (g : Fields) (r' : Remote) (settings' : Settings) :
    let prior := some (g.resolve r' settings')
    (Layout.of r prior settings).Shows (.seed (.of r prior settings) prior) :=
  shows_seed_iff.2 fun h => (g.resolve_normal r' settings').secret "" h rfl

end Layout

/-- The username shown is the one held. The secret field is said to be filled in if it holds
something, but also if the known secret is empty, and only that sets the two apart. For a key the
name in the header is the username of every credential that comes of the form, unless it is blank
and there is no username. -/
theorem seed_shown (r : Remote) (prior : Option Credential) (settings : Settings) :
    let l := Layout.of r prior settings
    let f := Fields.seed l prior
    (∀ field, l.usernameField = some field → field.initial = f.username) ∧
    (l.secretPrefilled = true ↔ f.secret ≠ "" ∨ prior.bind Credential.secret = some "") ∧
    ((l.secretPrefilled = true ↔ f.secret ≠ "") ↔ prior.bind Credential.secret ≠ some "") ∧
    ∀ file, r.keyFile = some file →
      let name := Text.baseName file
      l.message = "Enter your password for the SSH key \"" ++ name ++ "\"" ∧
      let username := if name.toList.all Text.isBlank then none else some name
      (∀ g : Fields, (g.resolve r settings).username = username) ∧
      ∀ (σ : Type) (S : Surface σ) s c,
        (Prompt.run S r prior settings s).1 = .confirmed c → c.username = username := by
  intro l f
  refine ⟨fun _ => Layout.initial_eq_seed, Layout.secretPrefilled_iff, ?_, ?_⟩
  · rw [← Layout.shows_seed_iff]
    exact ⟨fun h => ⟨fun _ => Layout.initial_eq_seed, h⟩, Layout.Shows.secret⟩
  · intro file hkey name
    refine ⟨Layout.message_key hkey, ?_, ?_⟩
    · intro g
      simp only [Fields.resolve, Fields.resolvedUsername, hkey, Text.nonBlank?, name]
    · intro σ S s c hc
      rw [Prompt.username_of_key hkey hc, Text.nonBlank?]

theorem seed_shown_key :
    let r : Remote := { uri := "/keys/id_rsa", keyFile := some "/keys/id_rsa" }
    let l := Layout.of r (some ⟨none, some "hunter2"⟩) {}
    l.secretPrefilled = true ∧ l.message = "Enter your password for the SSH key \"id_rsa\"" ∧
      ∀ g : Fields, (g.resolve r {}).username = some "id_rsa" := by
  -- a key file, with a secret that is already known
  intro r l
  have hname : Text.baseName "/keys/id_rsa" = "id_rsa" := by decide
  obtain ⟨-, hsecret, -, hkey⟩ := seed_shown r (some ⟨none, some "hunter2"⟩) {}
  obtain ⟨hmessage, husername, -⟩ := hkey _ rfl
  rw [hname] at hmessage husername
  exact ⟨hsecret.2 (.inl (by decide)), hmessage, husername⟩

/-- An empty secret that is known. -/
theorem seed_shown_emptySecret :
    let prior : Option Credential := some ⟨none, some ""⟩
    let l := Layout.of { uri := "https://example.com", host := some "example.com" } prior {}
    ¬(l.secretPrefilled = true ↔ (Fields.seed l prior).secret ≠ "") := by
  decide

end GitLogin
