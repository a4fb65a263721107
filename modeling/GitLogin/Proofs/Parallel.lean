import GitLogin.Proofs.History
import GitLogin.Surface.Recorder

namespace GitLogin

/-- Two surfaces that answer alike as long as they are told alike; `L` says which layouts count as
alike, and `R` which states. -/
structure Surface.InStep {σ τ : Type} (S : Surface σ) (T : Surface τ)
    (L : Layout → Layout → Prop) (R : σ → τ → Prop) : Prop where
  present : ∀ {l l' s t}, L l l' → R s t →
    (S.present l s).1 = (T.present l' t).1 ∧ R (S.present l s).2 (T.present l' t).2
  setEnabled : ∀ {b s t}, R s t → R (S.setEnabled b s) (T.setEnabled b t)
  reject : ∀ {s t}, R s t → R (S.reject s) (T.reject t)
  await : ∀ {s t}, R s t → (S.await s).1 = (T.await t).1 ∧ R (S.await s).2 (T.await t).2
  close : ∀ {s t}, R s t → R (S.close s) (T.close t)

theorem Surface.recorded_inStep {σ : Type} (S : Surface σ) :
    S.recorded.InStep S Eq (fun x s => x.state = s) where
  present := by
    rintro l _ x _ rfl rfl
    exact ⟨rfl, rfl⟩
  setEnabled := by
    rintro b x _ rfl
    rfl
  reject := by
    rintro x _ rfl
    rfl
  await := by
    rintro x _ rfl
    exact ⟨rfl, rfl⟩
  close := by
    rintro x _ rfl
    rfl

theorem Surface.inStep_refl {σ : Type} (S : Surface σ) : S.InStep S Eq Eq where
  present := by
    rintro l _ s _ rfl rfl
    exact ⟨rfl, rfl⟩
  setEnabled := by
    rintro b s _ rfl
    rfl
  reject := by
    rintro s _ rfl
    rfl
  await := by
    rintro s _ rfl
    exact ⟨rfl, rfl⟩
  close := by
    rintro s _ rfl
    rfl

theorem Fields.resolve_of_secret {f : Fields} (hs : f.secret ≠ "") (r : Remote)
    (settings : Settings) :
    f.resolve r settings = ⟨f.resolvedUsername r, some f.secret⟩ := by
  have hsecret : Text.nonEmpty? f.secret = some f.secret := by simp [Text.nonEmpty?, hs]
  rw [Fields.resolve, hsecret]
  rfl

namespace Prompt

variable {σ τ : Type} {S : Surface σ} {T : Surface τ} {r : Remote} {settings settings' : Settings}

section Answers

variable {f : Fields} {g : Gate} {s : σ}

theorem follow_of_error {e : SurfaceFault} (ha : (S.await s).1 = .error e) :
    follow S r settings f g s = (.declined, S.close (S.await s).2) := by
  rw [follow]
  split <;> simp_all

theorem follow_of_cancel (ha : (S.await s).1 = .ok .cancel) :
    follow S r settings f g s = (.declined, S.close (S.await s).2) := by
  rw [follow]
  split <;> simp_all

theorem follow_of_username {u : String} (ha : (S.await s).1 = .ok (.username u)) :
    follow S r settings f g s =
      follow S r settings { f with username := u } g (S.await s).2 := by
  rw [follow]
  split <;> simp_all

theorem follow_of_secret {t : String} (ha : (S.await s).1 = .ok (.secret t)) :
    follow S r settings f g s =
      follow S r settings { f with secret := t } (.ofLength t.length)
        (showGate S (g.feed t.length) (S.await s).2) := by
  rw [follow]
  split <;> simp_all

theorem follow_of_confirm (ha : (S.await s).1 = .ok .confirm) :
    follow S r settings f g s =
      if g.isEnabled then (.confirmed (f.resolve r settings), S.close (S.await s).2)
      else follow S r settings f g (S.reject (S.await s).2) := by
  rw [follow]
  split <;> simp_all

end Answers

variable {L : Layout → Layout → Prop} {R : σ → τ → Prop}

theorem showGate_inStep (hS : S.InStep T L R) (g : Gate × Bool) {s : σ} {t : τ} (hR : R s t) :
    R (showGate S g s) (showGate T g t) := by
  rw [showGate, showGate]
  split
  · exact hS.setEnabled hR
  · exact hR

theorem follow_inStep (hS : S.InStep T L R) {f f' : Fields} {g : Gate} {s : σ} {t : τ}
    (hR : R s t) (husername : f.username = f'.username)
    (hsecret : g.isEnabled = true → f.secret = f'.secret ∧ f.secret ≠ "") :
    (follow S r settings f g s).1 = (follow T r settings' f' g t).1 ∧
      R (follow S r settings f g s).2 (follow T r settings' f' g t).2 := by
  -- the secrets of the two forms may differ for as long as the gate is shut
  fun_induction follow S r settings f g s generalizing f' t with
  | case1 f g s e ha =>
    obtain ⟨heq, hR⟩ := hS.await hR
    rw [follow_of_error (heq.symm.trans ha)]
    exact ⟨rfl, hS.close hR⟩
  | case2 f g s ha =>
    obtain ⟨heq, hR⟩ := hS.await hR
    rw [follow_of_cancel (heq.symm.trans ha)]
    exact ⟨rfl, hS.close hR⟩
  | case3 f g s u ha ih =>
    obtain ⟨heq, hR⟩ := hS.await hR
    rw [follow_of_username (heq.symm.trans ha)]
    exact ih hR rfl hsecret
  | case4 f g s x ha ih =>
    obtain ⟨heq, hR⟩ := hS.await hR
    rw [follow_of_secret (heq.symm.trans ha)]
    refine ih (showGate_inStep hS _ hR) husername ?_
    -- from here on both fields hold what was typed
    intro hopen
    rw [Gate.feed_fst, Gate.isEnabled_ofLength, decide_eq_true_iff] at hopen
    refine ⟨rfl, ?_⟩
    rintro rfl
    exact absurd hopen (by decide)
  | case5 f g s ha hopen =>
    obtain ⟨heq, hR⟩ := hS.await hR
    obtain ⟨hsame, hne⟩ := hsecret hopen
    rw [follow_of_confirm (heq.symm.trans ha), if_pos hopen, Fields.resolve_of_secret hne,
      Fields.resolve_of_secret (hsame ▸ hne), Fields.resolvedUsername, Fields.resolvedUsername,
      husername, hsame]
    exact ⟨rfl, hS.close hR⟩
  | case6 f g s ha hshut ih =>
    obtain ⟨heq, hR⟩ := hS.await hR
    rw [follow_of_confirm (heq.symm.trans ha), if_neg hshut]
    exact ih (hS.reject hR) husername hsecret

theorem run_inStep (hS : S.InStep T L R) (r : Remote) (prior prior' : Option Credential)
    (settings settings' : Settings) (hL : L (.of r prior settings) (.of r prior' settings'))
    (hname : r.defaultUsername prior = r.defaultUsername prior') {s : σ} {t : τ} (hR : R s t) :
    (run S r prior settings s).1 = (run T r prior' settings' t).1 ∧
      R (run S r prior settings s).2 (run T r prior' settings' t).2 := by
  obtain ⟨heq, hR⟩ := hS.present hL hR
  cases hp : (S.present (.of r prior settings) s).1 with
  | error e =>
    rw [run_of_fault hp, run_of_fault (heq.symm.trans hp)]
    exact ⟨rfl, hS.close hR⟩
  | ok _ =>
    rw [run_of_presented hp, run_of_presented (heq.symm.trans hp)]
    refine follow_inStep hS (hS.setEnabled hR) ?_ (by simp [Gate.isEnabled, Gate.initial])
    exact congrArg (Option.getD · "") hname

theorem run_recorded (S : Surface σ) (r : Remote) (prior : Option Credential)
    (settings : Settings) (s : σ) :
    run S r prior settings s = ((run S.recorded r prior settings (.start s)).1,
      (run S.recorded r prior settings (.start s)).2.state) := by
  obtain ⟨ho, hs⟩ := run_inStep S.recorded_inStep r prior prior settings settings rfl rfl
    (s := .start s) rfl
  exact Prod.ext ho.symm hs.symm

end Prompt

end GitLogin
