import GitLogin.Proofs.History
import GitLogin.Proofs.Lines
import GitLogin.Surface.Terminal

/-!
A prompt on a terminal as an exchange of lines. Whatever the reader and the writer are, the lines
read so far decide the history and the next question (`exchanged_of_heard`): at most one line for the
username, then the empty lines that were turned down, then at most one line that waits for its
confirm.
-/

namespace GitLogin

namespace Terminal

variable {ρ ω : Type}

inductive Opened (l : Layout) : List String → History → Prop
  | unasked : l.usernameField = none → Opened l [] []
  | asked {f : UsernameField} (line : String) : l.usernameField = some f →
      Opened l [line] [.username (if line.isEmpty then f.initial else line)]

def rounds (k : Nat) : History := (List.replicate k [.secret "", .confirm]).flatten

@[simp] theorem rounds_zero : rounds 0 = [] := rfl

theorem rounds_succ (k : Nat) : rounds (k + 1) = rounds k ++ [.secret ""] ++ [.confirm] := by
  simp [rounds, List.replicate_succ', List.flatten_append]

/-- Lines read, history, next step and number of rejections, for a limit of `m` of these. -/
inductive Reached (l : Layout) (m : Nat) : List String → History → Step → Nat → Prop
  | username {f : UsernameField} : l.usernameField = some f → Reached l m [] [] .username 0
  | secret {ls : List String} {h : History} {k : Nat} : Opened l ls h → k < m →
      Reached l m (ls ++ List.replicate k "") (h ++ rounds k) .secret k
  | confirm {ls : List String} {h : History} {k : Nat} {t : String} : Opened l ls h → k < m →
      Reached l m (ls ++ List.replicate k "" ++ [t]) (h ++ rounds k ++ [.secret t]) .confirm k
  | cancel {ls : List String} {h : History} : Opened l ls h →
      Reached l m (ls ++ List.replicate m "") (h ++ rounds m) .cancel m

section Stages

variable {l : Layout} {m k : Nat} {ls : List String} {h : History}

theorem Reached.afterUsername {f : UsernameField} (hr : Reached l m ls h .username k)
    (hm : 0 < m) (hf : l.usernameField = some f) (line : String) :
    Reached l m (ls ++ [line]) (h ++ [.username (if line.isEmpty then f.initial else line)])
      .secret k := by
  cases hr
  simpa using Reached.secret (.asked line hf) hm

theorem Reached.field_ne_none (hr : Reached l m ls h .username k) : l.usernameField ≠ none := by
  cases hr with
  | username hf => simp [hf]

theorem Reached.afterSecret (hr : Reached l m ls h .secret k) (t : String) :
    Reached l m (ls ++ [t]) (h ++ [.secret t]) .confirm k := by
  cases hr with
  | secret ho hk => exact .confirm ho hk

theorem Reached.afterReject (hr : Reached l m ls h .confirm k) (hn : ¬h.HasSecret) :
    Reached l m ls (h ++ [.confirm]) (if m ≤ k + 1 then .cancel else .secret) (k + 1) := by
  -- a confirm is turned down only if the line before it was empty
  cases hr with
  | @confirm ls h _ t ho hk =>
    have ht : t = "" := by
      by_cases hne : t = ""
      · exact hne
      · exact absurd ⟨t, History.secret?_append _ _, hne⟩ hn
    subst ht
    rw [List.append_assoc, ← List.replicate_succ', List.append_assoc, List.append_assoc,
      ← List.append_assoc (rounds k), ← rounds_succ]
    by_cases hle : m ≤ k + 1
    · rw [if_pos hle, show m = k + 1 by omega]
      exact .cancel ho
    · rw [if_neg hle]
      exact .secret ho (by omega)

end Stages

structure Shows (t : Terminal ρ ω) (l : Layout) (m : Nat) : Prop where
  layout : t.layout = some l
  hideSecret : t.hideSecret = false
  maxAttempts : t.maxAttempts = m

theorem send_eq [TextWriter ω] (text : String) (t : Terminal ρ ω) :
    ∃ e output, t.send text = (e, { t with output }) := by
  rw [send]
  split
  · exact ⟨_, _, rfl⟩
  · exact ⟨_, _, rfl⟩

theorem step_reject [TextWriter ω] (t : Terminal ρ ω) :
    t.reject.step = if t.maxAttempts ≤ t.rejected + 1 then .cancel else .secret := by
  by_cases hle : t.maxAttempts ≤ t.rejected + 1
  · simp [reject, hle]
  · simp [reject, hle]

section Outputs

variable [TextWriter ω]

@[simp] theorem output_send (text : String) (t : Terminal ρ ω) :
    (t.send text).2.output = (TextWriter.send text t.output).2 := by
  rw [send]
  split
  · next heq => rw [heq]
  · next heq => rw [heq]

theorem output_reject (t : Terminal ρ ω) :
    ∃ complaint, t.reject.output = (TextWriter.write complaint t.output).2 := ⟨_, rfl⟩

variable [LineReader ρ]

omit [TextWriter ω] in
@[simp] theorem output_readLine (t : Terminal ρ ω) : t.readLine.2.output = t.output := by
  rw [readLine]
  split <;> rfl

omit [TextWriter ω] in
@[simp] theorem output_readSecret [SecretReader ρ] (t : Terminal ρ ω) :
    t.readSecret.2.output = t.output := by
  rw [readSecret]
  split
  · split <;> rfl
  · exact output_readLine t

theorem output_askUsername (f : UsernameField) (t : Terminal ρ ω) :
    (t.askUsername f).2.output = (TextWriter.send (usernameQuestion f) t.output).2 := by
  have hsend := output_send (usernameQuestion f) t
  rw [askUsername]
  split
  · next heq => rwa [heq] at hsend
  · next t₁ heq =>
    have hread := output_readLine t₁
    rw [heq] at hsend
    split
    · next heq' => rwa [heq', hsend] at hread
    · next heq' => rwa [heq', hsend] at hread
    · next heq' => rwa [heq', hsend] at hread

variable [SecretReader ρ]

theorem output_askSecret (label : String) (t : Terminal ρ ω) :
    (t.askSecret label).2.output = (TextWriter.send (label ++ ": ") t.output).2 := by
  have hsend := output_send (label ++ ": ") t
  rw [askSecret]
  split
  · next heq => rwa [heq] at hsend
  · next t₁ heq =>
    have hread := output_readSecret t₁
    rw [heq] at hsend
    split
    · next heq' => rwa [heq', hsend] at hread
    · next heq' => rwa [heq', hsend] at hread
    · next heq' => rwa [heq', hsend] at hread

theorem output_await (t : Terminal ρ ω) : t.await.2.output = t.output ∨
    ∃ question, t.await.2.output = (TextWriter.send question t.output).2 := by
  rw [await]
  split
  · exact .inl rfl
  · split
    · exact .inr ⟨_, output_askUsername ..⟩
    · exact .inr ⟨_, output_askSecret ..⟩
    · exact .inr ⟨_, output_askSecret ..⟩
    · exact .inl rfl
    · exact .inl rfl

end Outputs

section Asking

variable [LineReader ρ]

inductive Moves (l : Layout) (t : Terminal ρ ω) : Event → Terminal ρ ω → Prop
  | username {f : UsernameField} {raw : String} {input : ρ} {output : ω} : t.step = .username →
      l.usernameField = some f → LineReader.readLine t.input = (.ok (some raw), input) →
      Moves l t (.username (if (Text.withoutEnding raw).isEmpty then f.initial
        else Text.withoutEnding raw))
        { t with input, output, step := .secret }
  | secret {raw : String} {input : ρ} {output : ω} :
      t.step = .secret ∨ t.step = .username ∧ l.usernameField = none →
      LineReader.readLine t.input = (.ok (some raw), input) →
      Moves l t (.secret (Text.withoutEnding raw)) { t with input, output, step := .confirm }
  | confirm : t.step = .confirm → Moves l t .confirm { t with step := .secret }

theorem readLine_eq {t t' : Terminal ρ ω} {line : String}
    (h : t.readLine = (.ok (some line), t')) :
    ∃ raw input, LineReader.readLine t.input = (.ok (some raw), input) ∧
      line = Text.withoutEnding raw ∧ t' = { t with input } := by
  rw [readLine] at h
  split at h
  · cases h
  · next raw? input heq =>
    cases raw? with
    | none => cases h
    | some raw =>
      cases h
      exact ⟨raw, input, heq, Text.chomp_eq raw, rfl⟩

theorem readSecret_eq [SecretReader ρ] {t : Terminal ρ ω} (hs : t.hideSecret = false) :
    t.readSecret = t.readLine := by
  simp [readSecret, hs]

variable [TextWriter ω] {l : Layout} {m : Nat} {t : Terminal ρ ω} {e : Event}

theorem askUsername_moves {f : UsernameField} (hstep : t.step = .username)
    (hf : l.usernameField = some f) (h : (t.askUsername f).1 = .ok e) (hne : e ≠ .cancel) :
    Moves l t e (t.askUsername f).2 := by
  obtain ⟨r, output, hsend⟩ := send_eq (usernameQuestion f) t
  rw [askUsername] at h ⊢
  rw [hsend] at h ⊢
  cases r with
  | error => cases h
  | ok =>
    simp only at h ⊢
    split at h
    · cases h
    · cases h
      contradiction
    · next line t' heq =>
      obtain ⟨raw, input, hread, rfl, rfl⟩ := readLine_eq heq
      cases h
      exact .username hstep hf hread

variable [SecretReader ρ]

theorem movedTo_of_username {t : Terminal ρ ω} {u : String}
    (ha : t.await.1 = .ok (.username u)) : t.step = .username ∧ t.MovedTo t.await.2 .secret := by
  rcases await_movedTo ha with hc | ⟨-, hstep, hmove⟩ | ⟨⟨_, hc⟩, _⟩ | ⟨hc, _⟩
  · cases hc
  · exact ⟨hstep, hmove⟩
  · cases hc
  · cases hc

theorem movedTo_of_secret {t : Terminal ρ ω} {x : String} (ha : t.await.1 = .ok (.secret x)) :
    (t.step = .username ∨ t.step = .secret) ∧ t.MovedTo t.await.2 .confirm := by
  rcases await_movedTo ha with hc | ⟨⟨_, hc⟩, _⟩ | ⟨-, hstep, hmove⟩ | ⟨hc, _⟩
  · cases hc
  · cases hc
  · exact ⟨hstep, hmove⟩
  · cases hc

theorem movedTo_of_confirm {t : Terminal ρ ω} (ha : t.await.1 = .ok .confirm) :
    t.step = .confirm ∧ t.MovedTo t.await.2 .secret := by
  rcases await_movedTo ha with hc | ⟨⟨_, hc⟩, _⟩ | ⟨⟨_, hc⟩, _⟩ | ⟨-, hstep, hmove⟩
  · cases hc
  · cases hc
  · cases hc
  · exact ⟨hstep, hmove⟩

theorem askSecret_moves {label : String} (hs : t.hideSecret = false)
    (hstep : t.step = .secret ∨ t.step = .username ∧ l.usernameField = none)
    (h : (t.askSecret label).1 = .ok e) (hne : e ≠ .cancel) :
    Moves l t e (t.askSecret label).2 := by
  obtain ⟨r, output, hsend⟩ := send_eq (label ++ ": ") t
  rw [askSecret] at h ⊢
  rw [hsend] at h ⊢
  cases r with
  | error => cases h
  | ok =>
    simp only at h ⊢
    rw [readSecret_eq (t := { t with output }) hs] at h ⊢
    split at h
    · cases h
    · cases h
      contradiction
    · next line t' heq =>
      obtain ⟨raw, input, hread, rfl, rfl⟩ := readLine_eq heq
      cases h
      exact .secret hstep hread

theorem await_moves (hs : t.Shows l m) (h : t.await.1 = .ok e) (hne : e ≠ .cancel) :
    Moves l t e t.await.2 := by
  obtain ⟨input, output, hideSecret, maxAttempts, rejected, step, layout⟩ := t
  obtain ⟨rfl, rfl, rfl⟩ := hs
  rw [await] at h ⊢
  simp only at h ⊢
  split at h
  · next hf => exact askUsername_moves rfl hf h hne
  · next hf => exact askSecret_moves rfl (.inr ⟨rfl, hf⟩) h hne
  · exact askSecret_moves rfl (.inl rfl) h hne
  · cases h
    exact .confirm rfl
  · cases h
    contradiction

@[simp] theorem showGate_surface (g : Gate × Bool) (t : Terminal ρ ω) :
    Prompt.showGate surface g t = t := by
  rw [Prompt.showGate]
  split <;> rfl

def Exchanged (l : Layout) (m : Nat) (input : ρ) (h : History) (t : Terminal ρ ω) : Prop :=
  t.Shows l m ∧ ∃ ls, LinesRead input ls t.input ∧ Reached l m ls h t.step t.rejected

variable {t₀ : Terminal ρ ω} {h : History}

theorem exchanged_of_heard {input : ρ} (hm : 0 < m) (hstart : Exchanged l m input [] t₀)
    (hh : Prompt.Heard surface t₀ h t) : Exchanged l m input h t := by
  -- an answer takes one line or none, and the step tells which stage it leads to
  induction hh with
  | start => exact hstart
  | @username h t u _ ha ih =>
    obtain ⟨hs, ls, hread, hreach⟩ := ih
    have hmove : Moves l t (.username u) (surface.await t).2 := await_moves hs ha (by simp)
    generalize (surface.await t).2 = t' at hmove ⊢
    cases hmove with
    | username hstep hf hline =>
      rw [hstep] at hreach
      exact ⟨⟨hs.1, hs.2, hs.3⟩, _, hread.next hline, hreach.afterUsername hm hf _⟩
  | @secret h t u _ ha ih =>
    obtain ⟨hs, ls, hread, hreach⟩ := ih
    have hmove : Moves l t (.secret u) (surface.await t).2 := await_moves hs ha (by simp)
    rw [showGate_surface]
    generalize (surface.await t).2 = t' at hmove ⊢
    cases hmove with
    | secret hstep hline =>
      rcases hstep with hstep | ⟨hstep, hf⟩
      · rw [hstep] at hreach
        exact ⟨⟨hs.1, hs.2, hs.3⟩, _, hread.next hline, hreach.afterSecret _⟩
      · rw [hstep] at hreach
        exact absurd hf hreach.field_ne_none
  | @rejected h t _ ha hr ih =>
    obtain ⟨hs, ls, hread, hreach⟩ := ih
    have hmove : Moves l t .confirm (surface.await t).2 := await_moves hs ha (by simp)
    generalize (surface.await t).2 = t' at hmove ⊢
    cases hmove with
    | confirm hstep =>
      rw [hstep] at hreach
      refine ⟨⟨hs.1, hs.2, hs.3⟩, ls, hread, ?_⟩
      have hnext : (surface.reject { t with step := .secret }).step =
          if m ≤ t.rejected + 1 then .cancel else .secret := by
        rw [← hs.maxAttempts]
        exact step_reject _
      rw [hnext]
      exact hreach.afterReject hr

end Asking

end Terminal

end GitLogin
