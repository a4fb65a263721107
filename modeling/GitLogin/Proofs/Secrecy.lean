import GitLogin.Proofs.Exchange
import GitLogin.Proofs.Protocol
import GitLogin.Surface.Script

/-!
What a prompt lets out of the secrets that it is given. `ask_noninterference`: the known secret and
the placeholders leave no trace on a script or a terminal, but for the mark in the layout that there
is a known secret.
-/

namespace GitLogin

def Layout.unmarked (l : Layout) : Layout := { l with secretPrefilled := false }

@[simp] def Call.unmarked : Call → Call
  | .present l f => .present l.unmarked f
  | c => c

/-- A surface on which the mark changes nothing but the layout it was given: forgetting the mark
before an operation is the same as forgetting it afterwards. -/
structure Surface.Forgets {σ : Type} (S : Surface σ) (forget : σ → σ) : Prop where
  present : ∀ l s, S.present l.unmarked (forget s) = ((S.present l s).1, forget (S.present l s).2)
  setEnabled : ∀ b s, S.setEnabled b (forget s) = forget (S.setEnabled b s)
  reject : ∀ s, S.reject (forget s) = forget (S.reject s)
  await : ∀ s, S.await (forget s) = ((S.await s).1, forget (S.await s).2)
  close : ∀ s, S.close (forget s) = forget (S.close s)

namespace Surface

variable {σ : Type} {S : Surface σ} {forget : σ → σ}

theorem Forgets.inStep (hS : S.Forgets forget) :
    S.InStep S (fun l l' => l.unmarked = l'.unmarked) (fun s s' => forget s = forget s') where
  present := by
    intro l l' s s' hl hs
    have heq := hS.present l s
    rw [hl, hs, hS.present] at heq
    exact Prod.ext_iff.1 heq.symm
  setEnabled := by
    intro b s s' hs
    rw [← hS.setEnabled, hs, hS.setEnabled]
  reject := by
    intro s s' hs
    rw [← hS.reject, hs, hS.reject]
  await := by
    intro s s' hs
    have heq := hS.await s
    rw [hs, hS.await] at heq
    exact Prod.ext_iff.1 heq.symm
  close := by
    intro s s' hs
    rw [← hS.close, hs, hS.close]

def forgetCalls (forget : σ → σ) (x : Recorded σ) : Recorded σ :=
  ⟨forget x.state, x.calls.map Call.unmarked⟩

theorem Forgets.recorded (hS : S.Forgets forget) : S.recorded.Forgets (forgetCalls forget) where
  present l x := by
    simp [Surface.recorded, Recorded.note, forgetCalls, hS.present]
  setEnabled b x := by
    simp [Surface.recorded, Recorded.note, forgetCalls, hS.setEnabled]
  reject x := by
    simp [Surface.recorded, Recorded.note, forgetCalls, hS.reject]
  await x := by
    simp [Surface.recorded, Recorded.note, forgetCalls, hS.await]
  close x := by
    simp [Surface.recorded, Recorded.note, forgetCalls, hS.close]

end Surface

namespace Script

def unmarked (s : Script) : Script := { s with shown := s.shown.map Layout.unmarked }

theorem surface_forgets : surface.Forgets unmarked where
  present l s := by
    obtain ⟨answers, fault, shown, enabled, rejected, delivered, closed⟩ := s
    cases fault <;> rfl
  setEnabled b s := rfl
  reject s := rfl
  await s := by
    obtain ⟨answers, fault, shown, enabled, rejected, delivered, closed⟩ := s
    cases answers <;> rfl
  close s := rfl

end Script

namespace Terminal

variable {ρ ω : Type}

def unmarked (t : Terminal ρ ω) : Terminal ρ ω := { t with layout := t.layout.map Layout.unmarked }

theorem output_unmarked (t : Terminal ρ ω) : t.unmarked.output = t.output := rfl

section Operations

variable [TextWriter ω]

@[simp] theorem unmarked_send (text : String) (t : Terminal ρ ω) :
    t.unmarked.send text = ((t.send text).1, (t.send text).2.unmarked) := by
  simp only [send, unmarked]
  generalize TextWriter.send text t.output = sent
  obtain ⟨_ | _, output⟩ := sent <;> rfl

theorem unmarked_present (l : Layout) (t : Terminal ρ ω) :
    t.unmarked.present l.unmarked = ((t.present l).1, (t.present l).2.unmarked) := by
  rw [present, present, unmarked_send, show greeting l.unmarked = greeting l from rfl]
  generalize t.send (greeting l) = sent
  obtain ⟨_ | _, t⟩ := sent <;> rfl

theorem unmarked_reject (t : Terminal ρ ω) : t.unmarked.reject = t.reject.unmarked := by
  have hlabel : t.unmarked.secretLabel = t.secretLabel := by
    rw [secretLabel, secretLabel, unmarked, Option.map_map]
    rfl
  rw [reject, reject, hlabel]
  rfl

variable [LineReader ρ]

omit [TextWriter ω] in
theorem unmarked_readLine (t : Terminal ρ ω) :
    t.unmarked.readLine = (t.readLine.1, t.readLine.2.unmarked) := by
  simp only [readLine, unmarked]
  generalize LineReader.readLine t.input = line
  obtain ⟨_ | _, input⟩ := line <;> rfl

omit [TextWriter ω] in
theorem unmarked_readSecret [SecretReader ρ] (t : Terminal ρ ω) :
    t.unmarked.readSecret = (t.readSecret.1, t.readSecret.2.unmarked) := by
  rw [readSecret, readSecret, unmarked_readLine, show t.unmarked.hideSecret = t.hideSecret from rfl]
  split
  · simp only [unmarked]
    generalize SecretReader.readSecret t.input = secret
    obtain ⟨_ | _, input⟩ := secret <;> rfl
  · rfl

theorem unmarked_askUsername (f : UsernameField) (t : Terminal ρ ω) :
    t.unmarked.askUsername f = ((t.askUsername f).1, (t.askUsername f).2.unmarked) := by
  rw [askUsername, askUsername, unmarked_send]
  generalize t.send (usernameQuestion f) = sent
  obtain ⟨_ | _, t⟩ := sent
  · rfl
  · simp only [unmarked_readLine]
    generalize t.readLine = line
    obtain ⟨_ | _ | _, t⟩ := line <;> rfl

variable [SecretReader ρ]

theorem unmarked_askSecret (label : String) (t : Terminal ρ ω) :
    t.unmarked.askSecret label = ((t.askSecret label).1, (t.askSecret label).2.unmarked) := by
  rw [askSecret, askSecret, unmarked_send]
  generalize t.send (label ++ ": ") = sent
  obtain ⟨_ | _, t⟩ := sent
  · rfl
  · simp only [unmarked_readSecret]
    generalize t.readSecret = secret
    obtain ⟨_ | _ | _, t⟩ := secret <;> rfl

theorem unmarked_await (t : Terminal ρ ω) :
    t.unmarked.await = (t.await.1, t.await.2.unmarked) := by
  -- the questions are made of labels and of the username to start with
  cases hl : t.layout with
  | none => simp [await, unmarked, hl]
  | some l =>
    have hl' : t.unmarked.layout = some l.unmarked := by simp [unmarked, hl]
    have hfield : l.unmarked.usernameField = l.usernameField := rfl
    have hlabel : l.unmarked.secretLabel = l.secretLabel := rfl
    have hstep : t.unmarked.step = t.step := rfl
    simp only [await, hl, hl', hfield, hlabel, hstep]
    split
    · exact unmarked_askUsername _ t
    · exact unmarked_askSecret _ t
    · exact unmarked_askSecret _ t
    · rfl
    · rfl

theorem surface_forgets : (surface : Surface (Terminal ρ ω)).Forgets unmarked where
  present := unmarked_present
  setEnabled _ _ := rfl
  reject := unmarked_reject
  await := unmarked_await
  close _ := rfl

end Operations

end Terminal

namespace Prompt

variable {σ : Type} {S : Surface σ}

/-- Two prompts that cannot be told apart on the surface that both begin on: they make the same
calls, the mark aside, come to the same outcome and leave the surface in states that are `Same`.
A credential holds a secret that was typed. -/
def Indistinct (S : Surface σ) (Same : σ → σ → Prop) (r : Remote) (prior prior' : Credential)
    (settings settings' : Settings) (s : σ) : Prop :=
  ∃ o x x', ask S.recorded .interactive r (some prior) settings (.start s) = .ok (o, x) ∧
    ask S.recorded .interactive r (some prior') settings' (.start s) = .ok (o, x') ∧
    ask S .interactive r (some prior) settings s = .ok (o, x.state) ∧
    ask S .interactive r (some prior') settings' s = .ok (o, x'.state) ∧
    x.calls.map Call.unmarked = x'.calls.map Call.unmarked ∧
    Same x.state x'.state ∧
    (prior.secret.isSome = prior'.secret.isSome → x.calls = x'.calls ∧ x.state = x'.state) ∧
    (∀ c, o = .confirmed c →
      ∃ t, c.secret = some t ∧ t ≠ "" ∧ .await (.ok (.secret t)) ∈ x.calls)

theorem Indistinct.mono {Same Same' : σ → σ → Prop} {r : Remote} {prior prior' : Credential}
    {settings settings' : Settings} {s : σ}
    (h : Indistinct S Same r prior prior' settings settings' s)
    (hsame : ∀ s s', Same s s' → Same' s s') :
    Indistinct S Same' r prior prior' settings settings' s := by
  obtain ⟨o, x, x', hx, hx', hs, hs', hcalls, hstate, hrest⟩ := h
  exact ⟨o, x, x', hx, hx', hs, hs', hcalls, hsame _ _ hstate, hrest⟩

theorem layout_unmarked (r : Remote) (username secret secret' : Option String)
    (settings : Settings) (gitHub bitbucket other : String) :
    (Layout.of r (some ⟨username, secret⟩) settings).unmarked =
      (Layout.of r (some ⟨username, secret'⟩) { settings with gitHub, bitbucket, other }).unmarked :=
  rfl

theorem layout_eq (r : Remote) (username : Option String) {secret secret' : Option String}
    (hs : secret.isSome = secret'.isSome) (settings : Settings)
    (gitHub bitbucket other : String) :
    Layout.of r (some ⟨username, secret⟩) settings =
      Layout.of r (some ⟨username, secret'⟩) { settings with gitHub, bitbucket, other } := by
  simp only [Layout.of, Option.bind_some, hs]
  rfl

theorem indistinct {forget : σ → σ} (hS : S.Forgets forget) (r : Remote)
    (username secret secret' : Option String) (settings : Settings)
    (gitHub bitbucket other : String) (s : σ) :
    Indistinct S (fun s s' => forget s = forget s') r ⟨username, secret⟩ ⟨username, secret'⟩
      settings { settings with gitHub, bitbucket, other } s := by
  let prior : Credential := ⟨username, secret⟩
  let prior' : Credential := ⟨username, secret'⟩
  let settings' : Settings := { settings with gitHub, bitbucket, other }
  obtain ⟨o, x, hx⟩ : ∃ o x, run S.recorded r (some prior) settings (.start s) = (o, x) :=
    ⟨_, _, rfl⟩
  obtain ⟨o', x', hx'⟩ : ∃ o x, run S.recorded r (some prior') settings' (.start s) = (o, x) :=
    ⟨_, _, rfl⟩
  have hsame := run_inStep hS.recorded.inStep r (some prior) (some prior') settings settings'
    (layout_unmarked r username secret secret' settings gitHub bitbucket other) rfl
    (s := .start s) (t := .start s) rfl
  rw [hx, hx'] at hsame
  obtain ⟨rfl, hforget⟩ := hsame
  have hrun := run_recorded S r (some prior) settings s
  have hrun' := run_recorded S r (some prior') settings' s
  rw [hx] at hrun
  rw [hx'] at hrun'
  refine ⟨o, x, x', by rw [ask_interactive, hx], by rw [ask_interactive, hx'],
    by rw [ask_interactive, hrun], by rw [ask_interactive, hrun'],
    congrArg Recorded.calls hforget, congrArg Recorded.state hforget, ?_, ?_⟩
  · intro hs
    have heq := run_inStep S.recorded.inStep_refl r (some prior) (some prior') settings settings'
      (layout_eq r username hs settings gitHub bitbucket other) rfl
      (s := .start s) (t := .start s) rfl
    rw [hx, hx'] at heq
    obtain ⟨-, rfl⟩ := heq
    exact ⟨rfl, rfl⟩
  · rintro c rfl
    obtain ⟨t, hcalls, ht⟩ := run_ended S r (some prior) settings s
    rw [hx] at hcalls ht
    obtain ⟨y, hy, hne, hmem⟩ := ht.secret_mem
    refine ⟨y, hy, hne, ?_⟩
    rw [show x.calls = t ++ [.close] from hcalls]
    exact List.mem_append_left _ hmem

end Prompt

/-- Two prompts that differ in the known secret and in the placeholders cannot be told apart: not
by the calls on a script, nor by those on a terminal and what is written there. -/
theorem ask_noninterference (r : Remote) (username secret secret' : Option String)
    (settings : Settings) (gitHub bitbucket other : String) :
    let prior : Credential := ⟨username, secret⟩
    let prior' : Credential := ⟨username, secret'⟩
    let settings' : Settings := { settings with gitHub, bitbucket, other }
    (∀ s : Script, Prompt.Indistinct Script.surface (fun s s' => s.unmarked = s'.unmarked)
      r prior prior' settings settings' s) ∧
    ∀ {ρ ω : Type} [LineReader ρ] [SecretReader ρ] [TextWriter ω] (t : Terminal ρ ω),
      Prompt.Indistinct Terminal.surface
        (fun t t' => t.output = t'.output ∧ t.unmarked = t'.unmarked)
        r prior prior' settings settings' t := by
  intro prior prior' settings'
  constructor
  · exact Prompt.indistinct Script.surface_forgets r username secret secret' settings _ _ _
  · intro ρ ω _ _ _ t
    have h := Prompt.indistinct (S := (Terminal.surface : Surface (Terminal ρ ω)))
      Terminal.surface_forgets r username secret secret' settings gitHub bitbucket other t
    refine h.mono fun t t' heq => ⟨?_, heq⟩
    rw [← t.output_unmarked, heq, t'.output_unmarked]

end GitLogin
