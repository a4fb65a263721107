import GitLogin.Prompt

namespace GitLogin

@[simp] def Event.username? : Event → Option String
  | .username u => some u
  | _ => none

@[simp] def Event.secret? : Event → Option String
  | .secret t => some t
  | _ => none

/-- The name of the key, or else the name that was typed, or else the one to start with. -/
def Remote.loginName (r : Remote) (prior : Option Credential) (typed : Option String) :
    Option String :=
  match r.keyFile with
  | some file => Text.nonBlank? (Text.baseName file)
  | none => Text.nonBlank? ((typed <|> r.defaultUsername prior).getD "")

/-- What a surface has answered so far, the latest event at the end. -/
abbrev History := List Event

namespace History

def username? (h : History) : Option String := (h.filterMap Event.username?).getLast?

def secret? (h : History) : Option String := (h.filterMap Event.secret?).getLast?

def HasSecret (h : History) : Prop := ∃ t, h.secret? = some t ∧ t ≠ ""

def credential (h : History) (r : Remote) (prior : Option Credential) : Credential where
  username := r.loginName prior h.username?
  secret := h.secret?

@[simp] theorem username?_append (h : History) (e : Event) :
    username? (h ++ [e]) = (e.username? <|> h.username?) := by
  cases e <;> simp [username?, Event.username?]

@[simp] theorem secret?_append (h : History) (e : Event) :
    secret? (h ++ [e]) = (e.secret? <|> h.secret?) := by
  cases e <;> simp [secret?, Event.secret?]

theorem mem_of_secret? {h : History} {t : String} (ht : h.secret? = some t) : .secret t ∈ h := by
  obtain ⟨e, he, hsecret⟩ := List.mem_filterMap.1 (List.mem_of_getLast? ht)
  cases e with
  | secret =>
    cases hsecret
    exact he
  | _ => cases hsecret

end History

def Fields.after (f : Fields) (h : History) : Fields where
  username := h.username?.getD f.username
  secret := h.secret?.getD f.secret

def Gate.after (h : History) : Gate := .ofLength (h.secret?.getD "").length

@[simp] theorem Fields.after_nil (f : Fields) : f.after [] = f := rfl

@[simp] theorem Fields.after_username (f : Fields) (h : History) (u : String) :
    f.after (h ++ [.username u]) = { f.after h with username := u } := by
  simp [Fields.after]

@[simp] theorem Fields.after_secret (f : Fields) (h : History) (t : String) :
    f.after (h ++ [.secret t]) = { f.after h with secret := t } := by
  simp [Fields.after]

@[simp] theorem Fields.after_confirm (f : Fields) (h : History) :
    f.after (h ++ [.confirm]) = f.after h := by
  simp [Fields.after]

@[simp] theorem Gate.after_nil : Gate.after [] = .initial := rfl

@[simp] theorem Gate.after_username (h : History) (u : String) :
    Gate.after (h ++ [.username u]) = .after h := by
  simp [Gate.after]

@[simp] theorem Gate.after_secret (h : History) (t : String) :
    Gate.after (h ++ [.secret t]) = .ofLength t.length := by
  simp [Gate.after]

@[simp] theorem Gate.after_confirm (h : History) : Gate.after (h ++ [.confirm]) = .after h := by
  simp [Gate.after]

theorem Gate.isEnabled_after {h : History} : (Gate.after h).isEnabled = true ↔ h.HasSecret := by
  rw [Gate.after, Gate.isEnabled_ofLength, decide_eq_true_iff, Nat.pos_iff_ne_zero, Ne,
    String.length_eq_zero_iff]
  cases ht : h.secret? with
  | none => simp [History.HasSecret, ht]
  | some t => simp [History.HasSecret, ht]

theorem Fields.resolve_after {h : History} (hs : h.HasSecret) (r : Remote)
    (prior : Option Credential) (settings : Settings) :
    ((Fields.seed (.of r prior settings) prior).after h).resolve r settings =
      h.credential r prior := by
  -- a secret that was typed leaves no room for the placeholder, nor for a known secret
  obtain ⟨t, ht, hne⟩ := hs
  have hsecret : Text.nonEmpty? t = some t := by simp [Text.nonEmpty?, hne]
  have husername : h.username?.getD ((r.defaultUsername prior).getD "") =
      (h.username? <|> r.defaultUsername prior).getD "" := by cases h.username? <;> rfl
  simp only [Fields.resolve, Fields.resolvedUsername, Fields.after, Fields.seed,
    History.credential, Remote.loginName, Layout.of, ht, Option.getD_some, hsecret, husername]
  rfl

namespace Prompt

variable {σ : Type} {S : Surface σ} {s₀ s : σ} {h : History}

/-- A history that leaves the prompt open, and the surface that it leaves behind. -/
inductive Heard (S : Surface σ) (s₀ : σ) : History → σ → Prop
  | start : Heard S s₀ [] s₀
  | username {h : History} {s : σ} {u : String} : Heard S s₀ h s →
      (S.await s).1 = .ok (.username u) → Heard S s₀ (h ++ [.username u]) (S.await s).2
  | secret {h : History} {s : σ} {t : String} : Heard S s₀ h s →
      (S.await s).1 = .ok (.secret t) →
      Heard S s₀ (h ++ [.secret t]) (showGate S ((Gate.after h).feed t.length) (S.await s).2)
  | rejected {h : History} {s : σ} : Heard S s₀ h s → (S.await s).1 = .ok .confirm →
      ¬h.HasSecret → Heard S s₀ (h ++ [.confirm]) (S.reject (S.await s).2)

inductive Ends (S : Surface σ) (r : Remote) (prior : Option Credential) (h : History) (s : σ) :
    Outcome × σ → Prop
  | failed {e : SurfaceFault} : (S.await s).1 = .error e →
      Ends S r prior h s (.declined, S.close (S.await s).2)
  | cancelled : (S.await s).1 = .ok .cancel →
      Ends S r prior h s (.declined, S.close (S.await s).2)
  | confirmed : (S.await s).1 = .ok .confirm → h.HasSecret →
      Ends S r prior h s (.confirmed (h.credential r prior), S.close (S.await s).2)

theorem Heard.cancel_notMem (hh : Heard S s₀ h s) : .cancel ∉ h := by
  induction hh with
  | start => simp
  | username _ _ ih => simpa using ih
  | secret _ _ ih => simpa using ih
  | rejected _ _ _ ih => simpa using ih

theorem Heard.not_hasSecret (hh : Heard S s₀ h s) {earlier : History}
    (hp : earlier ++ [.confirm] <+: h) : ¬earlier.HasSecret := by
  -- the last event of a history that ends in this confirm was turned down
  induction hh with
  | start => simp at hp
  | username _ _ ih =>
    rcases List.prefix_concat_iff.1 hp with eq | hp
    · simp at eq
    · exact ih hp
  | secret _ _ ih =>
    rcases List.prefix_concat_iff.1 hp with eq | hp
    · simp at eq
    · exact ih hp
  | rejected _ _ hr ih =>
    rcases List.prefix_concat_iff.1 hp with eq | hp
    · obtain ⟨rfl, -⟩ := List.append_singleton_inj.1 eq
      exact hr
    · exact ih hp

variable {r : Remote} {prior : Option Credential} {settings : Settings}

theorem follow_ends (hh : Heard S s₀ h s) :
    ∃ h' s', Heard S s₀ h' s' ∧ Ends S r prior h' s'
      (follow S r settings ((Fields.seed (.of r prior settings) prior).after h) (.after h) s) := by
  -- the fields and the gate stay what the history makes of them
  generalize hf : (Fields.seed (.of r prior settings) prior).after h = f, hg : Gate.after h = g
  fun_induction follow S r settings f g s generalizing h with
  | case1 f g s e ha => exact ⟨h, s, hh, .failed ha⟩
  | case2 f g s ha => exact ⟨h, s, hh, .cancelled ha⟩
  | case3 f g s u ha ih =>
    subst hf hg
    exact ih (hh.username ha) (Fields.after_username _ h u) (Gate.after_username h u)
  | case4 f g s t ha ih =>
    subst hf hg
    exact ih (hh.secret ha) (Fields.after_secret _ h t) (Gate.after_secret h t)
  | case5 f g s ha hopen =>
    subst hf hg
    have hs : h.HasSecret := Gate.isEnabled_after.1 hopen
    rw [Fields.resolve_after hs]
    exact ⟨h, s, hh, .confirmed ha hs⟩
  | case6 f g s ha hshut ih =>
    subst hf hg
    have hr : ¬h.HasSecret := fun hs => hshut (Gate.isEnabled_after.2 hs)
    exact ih (hh.rejected ha hr) (Fields.after_confirm _ h) (Gate.after_confirm h)

theorem ask_interactive (S : Surface σ) (r : Remote) (prior : Option Credential)
    (settings : Settings) (s : σ) :
    ask S .interactive r prior settings s = .ok (run S r prior settings s) := rfl

theorem run_of_fault {e : SurfaceFault} (hp : (S.present (.of r prior settings) s).1 = .error e) :
    run S r prior settings s = (.declined, S.close (S.present (.of r prior settings) s).2) := by
  rw [run]
  split
  · next heq => rw [heq]
  · next heq => simp [heq] at hp

theorem run_of_presented (hp : (S.present (.of r prior settings) s).1 = .ok ()) :
    run S r prior settings s = follow S r settings (.seed (.of r prior settings) prior) .initial
      (S.setEnabled false (S.present (.of r prior settings) s).2) := by
  rw [run]
  split
  · next heq => simp [heq] at hp
  · next heq =>
    rw [heq]
    rfl

theorem run_ends (r : Remote) (prior : Option Credential) (settings : Settings)
    (hp : (S.present (.of r prior settings) s).1 = .ok ()) :
    ∃ h s', Heard S (S.setEnabled false (S.present (.of r prior settings) s).2) h s' ∧
      Ends S r prior h s' (run S r prior settings s) := by
  rw [run_of_presented hp]
  exact follow_ends .start

theorem run_confirmed {c : Credential} (hc : (run S r prior settings s).1 = .confirmed c) :
    ∃ h : History, h.HasSecret ∧ c = h.credential r prior := by
  cases hp : (S.present (.of r prior settings) s).1 with
  | error e => simp [run_of_fault hp] at hc
  | ok _ =>
    obtain ⟨h, s', -, hends⟩ := run_ends r prior settings hp
    generalize run S r prior settings s = result at hc hends
    cases hends with
    | failed => cases hc
    | cancelled => cases hc
    | confirmed _ hs =>
      cases hc
      exact ⟨h, hs, rfl⟩

end Prompt

end GitLogin
