import GitLogin.Proofs.Exchange
import GitLogin.Proofs.Protocol

namespace GitLogin

@[simp] def Call.isAwait : Call → Bool
  | .await _ => true
  | _ => false

@[simp] def Call.isReject : Call → Bool
  | .reject => true
  | _ => false

/-- The input after `k` lines were asked of it, be it that they came or not. -/
def LineReader.skip {ρ : Type} [LineReader ρ] : Nat → ρ → ρ
  | 0, input => input
  | k + 1, input => (readLine (skip k input)).2

theorem LineReader.skip_add {ρ : Type} [LineReader ρ] (j k : Nat) (input : ρ) :
    skip j (skip k input) = skip (k + j) input := by
  induction j with
  | zero => rfl
  | succ j ih => exact congrArg (fun input => (readLine input).2) ih

namespace Prompt

variable {σ : Type} {S : Surface σ} {s₀ s : σ} {h : History} {x₀ x : Recorded σ}

theorem remaining_of_heard (hh : Heard S s₀ h s) :
    h.length + S.remaining s ≤ S.remaining s₀ := by
  induction hh with
  | start => simp
  | @username h s u _ ha ih =>
    have hlt := S.remaining_username s u ha
    rw [List.length_append, List.length_singleton]
    omega
  | @secret h s t _ ha ih =>
    have hlt := S.remaining_secret s t ha
    have hle := remaining_showGate S ((Gate.after h).feed t.length) (S.await s).2
    rw [List.length_append, List.length_singleton]
    omega
  | @rejected h s _ ha _ ih =>
    have hlt := S.remaining_confirm s ha
    rw [List.length_append, List.length_singleton]
    omega

theorem Ends.closed {r : Remote} {prior : Option Credential} {result : Outcome × σ}
    (he : Ends S r prior h s result) : result.2 = S.close (S.await s).2 ∧
      (result.1 = .declined ∨ (S.await s).1 = .ok .confirm) := by
  cases he with
  | failed => exact ⟨rfl, .inl rfl⟩
  | cancelled => exact ⟨rfl, .inl rfl⟩
  | confirmed ha => exact ⟨rfl, .inr ha⟩

theorem state_showGate (S : Surface σ) (g : Gate × Bool) (x : Recorded σ) :
    (showGate S.recorded g x).state = showGate S g x.state := by
  rw [showGate, showGate]
  split <;> rfl

theorem heard_of_recorded (hh : Heard S.recorded x₀ h x) : Heard S x₀.state h x.state := by
  induction hh with
  | start => exact .start
  | username _ ha ih => exact ih.username ha
  | secret _ ha ih =>
    rw [state_showGate]
    exact ih.secret ha
  | rejected _ ha hr ih => exact ih.rejected ha hr

theorem awaits_of_heard (hh : Heard S.recorded x₀ h x) :
    x.calls.countP Call.isAwait = x₀.calls.countP Call.isAwait + h.length := by
  induction hh with
  | start => rfl
  | username _ _ ih => simp [ih, Nat.add_assoc]
  | secret _ _ ih =>
    rw [calls_showGate]
    split
    · simp [List.countP_cons, ih, Nat.add_assoc]
    · simp [ih, Nat.add_assoc]
  | rejected _ _ _ ih => simp [List.countP_cons, ih, Nat.add_assoc]

theorem rejects_of_heard (hh : Heard S.recorded x₀ h x) :
    x.calls.countP Call.isReject = x₀.calls.countP Call.isReject + h.count .confirm := by
  induction hh with
  | start => rfl
  | username _ _ ih => simp [ih]
  | secret _ _ ih =>
    rw [calls_showGate]
    split <;> simp [ih]
  | rejected _ _ _ ih => simp [List.countP_cons, ih, Nat.add_assoc]

end Prompt

def Step.lines : Step → Nat
  | .username | .secret => 1
  | .confirm | .cancel => 0

namespace Terminal

variable {ρ ω : Type}

section Operations

variable [LineReader ρ]

theorem readLine_skip (t : Terminal ρ ω) :
    ∃ a, t.readLine = (a, { t with input := LineReader.skip 1 t.input }) := by
  rw [readLine]
  split
  · next heq => exact ⟨_, by rw [LineReader.skip, LineReader.skip, heq]⟩
  · next heq => exact ⟨_, by rw [LineReader.skip, LineReader.skip, heq]⟩

theorem readSecret_skip [SecretReader ρ] (t : Terminal ρ ω) :
    ∃ a, t.readSecret = (a, { t with input := LineReader.skip 1 t.input }) := by
  have hsnd : (SecretReader.readSecret t.input).2 = LineReader.skip 1 t.input :=
    SecretReader.snd_readSecret t.input
  rw [readSecret]
  split
  · split
    · next heq => exact ⟨_, by rw [← hsnd, heq]⟩
    · next heq => exact ⟨_, by rw [← hsnd, heq]⟩
  · exact readLine_skip t

variable [TextWriter ω]

theorem askUsername_skip (f : UsernameField) (t : Terminal ρ ω) :
    ∃ a output step, ∃ k ≤ 1, t.askUsername f =
      (a, { t with input := LineReader.skip k t.input, output, step }) := by
  obtain ⟨sent, output, hsend⟩ := send_eq (usernameQuestion f) t
  rw [askUsername, hsend]
  cases sent with
  | error e => exact ⟨_, output, t.step, 0, Nat.zero_le 1, rfl⟩
  | ok =>
    obtain ⟨line, hline⟩ := readLine_skip { t with output }
    simp only [hline]
    obtain _ | _ | _ := line <;> exact ⟨_, output, _, 1, Nat.le_refl 1, rfl⟩

variable [SecretReader ρ]

theorem askSecret_skip (label : String) (t : Terminal ρ ω) :
    ∃ a output step, ∃ k ≤ 1, t.askSecret label =
      (a, { t with input := LineReader.skip k t.input, output, step }) := by
  obtain ⟨sent, output, hsend⟩ := send_eq (label ++ ": ") t
  rw [askSecret, hsend]
  cases sent with
  | error e => exact ⟨_, output, t.step, 0, Nat.zero_le 1, rfl⟩
  | ok =>
    obtain ⟨line, hline⟩ := readSecret_skip { t with output }
    simp only [hline]
    obtain _ | _ | _ := line <;> exact ⟨_, output, _, 1, Nat.le_refl 1, rfl⟩

theorem await_skip (t : Terminal ρ ω) :
    ∃ a output step, ∃ k ≤ t.step.lines, t.await =
      (a, { t with input := LineReader.skip k t.input, output, step }) := by
  rw [await]
  split
  · exact ⟨_, t.output, t.step, 0, Nat.zero_le _, rfl⟩
  · split
    · next hstep _ =>
      rw [hstep]
      exact askUsername_skip ..
    · next hstep _ =>
      rw [hstep]
      exact askSecret_skip ..
    · next hstep =>
      rw [hstep]
      exact askSecret_skip ..
    · exact ⟨_, t.output, .secret, 0, Nat.zero_le _, rfl⟩
    · exact ⟨_, t.output, t.step, 0, Nat.zero_le _, rfl⟩

@[simp] theorem rejected_await (t : Terminal ρ ω) : t.await.2.rejected = t.rejected := by
  obtain ⟨a, output, step, k, -, heq⟩ := await_skip t
  rw [heq]

end Operations

@[simp] theorem rejected_reject [TextWriter ω] (t : Terminal ρ ω) :
    t.reject.rejected = t.rejected + 1 := rfl

def linesLeft (t : Terminal ρ ω) : Nat :=
  match t.step with
  | .username => t.maxAttempts - t.rejected + 1
  | .secret => t.maxAttempts - t.rejected
  | .confirm => t.maxAttempts - t.rejected - 1
  | .cancel => 0

theorem linesLeft_reject [TextWriter ω] (t : Terminal ρ ω) :
    t.reject.linesLeft = t.maxAttempts - (t.rejected + 1) := by
  rw [linesLeft, step_reject, rejected_reject]
  by_cases hle : t.maxAttempts ≤ t.rejected + 1
  · rw [if_pos hle, Nat.sub_eq_zero_of_le hle]
  · rw [if_neg hle]
    rfl

theorem present_eq [TextWriter ω] (l : Layout) (t : Terminal ρ ω) (hstep : t.step = .secret) :
    ∃ output step layout, (t.present l).2 = { t with output, step, layout } ∧
      (step = .username ∨ step = .secret) := by
  obtain ⟨sent, output, hsend⟩ := send_eq (greeting l) t
  rw [present, hsend]
  cases sent with
  | error e => exact ⟨output, t.step, t.layout, rfl, .inr hstep⟩
  | ok =>
    cases hf : l.focus with
    | username => exact ⟨output, .username, some l, rfl, .inl rfl⟩
    | secret => exact ⟨output, .secret, some l, rfl, .inr rfl⟩

variable [LineReader ρ]

/-- An exchange within a limit of `m` attempts, over an input that it has read from. -/
structure Within (m : Nat) (input : ρ) (t : Terminal ρ ω) : Prop where
  maxAttempts : t.maxAttempts = m
  rejected_le : t.rejected ≤ m
  rejected_lt : t.step ≠ .cancel → t.rejected < m
  lines : ∃ k, k + t.linesLeft ≤ m + 1 ∧ t.input = LineReader.skip k input

variable {t t₀ : Terminal ρ ω} {m : Nat} {input : ρ} {h : History}

theorem Within.lines_le (hw : Within m input t) : t.step.lines ≤ t.linesLeft := by
  have hlt := hw.rejected_lt
  rw [linesLeft, hw.maxAttempts]
  generalize t.step = step at hlt ⊢
  cases step with
  | username => exact Nat.le_add_left 1 _
  | secret => exact Nat.sub_pos_of_lt (hlt nofun)
  | confirm => exact Nat.zero_le _
  | cancel => exact Nat.le_refl 0

variable [TextWriter ω]

theorem present_new (l : Layout) (input : ρ) (output : ω) (n : Nat) (hideSecret : Bool) :
    Within (max n 1) input ((new input output n hideSecret).present l).2 ∧
      ((new input output n hideSecret).present l).2.rejected = 0 ∧
      ((new input output n hideSecret).present l).2.remaining ≤ 2 * max n 1 + 1 := by
  obtain ⟨output', step, layout, heq, hstep⟩ := present_eq l (new input output n hideSecret) rfl
  rw [heq]
  refine ⟨⟨rfl, Nat.zero_le _, fun _ => ?_, 0, ?_, rfl⟩, rfl, ?_⟩
  · simp only [new]
    omega
  · rcases hstep with rfl | rfl <;> simp [linesLeft, new]
  · rcases hstep with rfl | rfl <;> simp [remaining, new]

variable [SecretReader ρ]

theorem Within.input_await (hw : Within m input t) : ∃ k,
    k + t.linesLeft ≤ m + 1 + t.step.lines ∧ t.await.2.input = LineReader.skip k input := by
  obtain ⟨a, output, step, j, hj, heq⟩ := await_skip t
  obtain ⟨k, hk, hinput⟩ := hw.lines
  exact ⟨k + j, by omega, by rw [heq, ← LineReader.skip_add, ← hinput]⟩

theorem Within.lines_await (hw : Within m input t) :
    ∃ k ≤ m + 1, t.await.2.input = LineReader.skip k input := by
  obtain ⟨k, hk, hinput⟩ := hw.input_await
  have hle := hw.lines_le
  exact ⟨k, by omega, hinput⟩

theorem Within.await {step : Step} (hw : Within m input t) (hm : t.MovedTo t.await.2 step)
    (hstep : t.step ≠ .cancel) (hleft : t.step.lines + t.await.2.linesLeft ≤ t.linesLeft) :
    Within m input t.await.2 where
  maxAttempts := hm.1.trans hw.maxAttempts
  rejected_le := by
    rw [rejected_await]
    exact hw.rejected_le
  rejected_lt _ := by
    rw [rejected_await]
    exact hw.rejected_lt hstep
  lines := by
    obtain ⟨k, hk, hinput⟩ := hw.input_await
    exact ⟨k, by omega, hinput⟩

theorem Within.username {u : String} (hw : Within m input t)
    (ha : t.await.1 = .ok (.username u)) : Within m input t.await.2 := by
  obtain ⟨hstep, hmove⟩ := movedTo_of_username ha
  apply hw.await hmove (by simp [hstep])
  simp only [linesLeft, hstep, hmove.1, hmove.2.1, hmove.2.2, Step.lines]
  omega

theorem Within.secret {x : String} (hw : Within m input t)
    (ha : t.await.1 = .ok (.secret x)) : Within m input t.await.2 := by
  obtain ⟨hstep, hmove⟩ := movedTo_of_secret ha
  have hne : t.step ≠ .cancel := by rcases hstep with hstep | hstep <;> simp [hstep]
  have hlt := hw.rejected_lt hne
  rw [← hw.maxAttempts] at hlt
  apply hw.await hmove hne
  rcases hstep with hstep | hstep
  · simp only [linesLeft, hstep, hmove.1, hmove.2.1, hmove.2.2, Step.lines]
    omega
  · simp only [linesLeft, hstep, hmove.1, hmove.2.1, hmove.2.2, Step.lines]
    omega

theorem Within.reject (hw : Within m input t) (ha : t.await.1 = .ok .confirm) :
    Within m input t.await.2.reject := by
  obtain ⟨hstep, hmove⟩ := movedTo_of_confirm ha
  have hlt := hw.rejected_lt (by simp [hstep])
  have hmax := hmove.1.trans hw.maxAttempts
  constructor
  · exact hmax
  · rw [rejected_reject, rejected_await]
    exact hlt
  · rw [step_reject, rejected_reject, rejected_await, hmax]
    intro hne
    by_cases hle : m ≤ t.rejected + 1
    · simp [hle] at hne
    · omega
  · obtain ⟨k, hk, hinput⟩ := hw.input_await
    refine ⟨k, ?_, hinput⟩
    simp only [linesLeft, hstep, Step.lines, hw.maxAttempts] at hk
    rw [linesLeft_reject, rejected_await, hmax]
    omega

theorem within_of_heard (h₀ : Within m input t₀) (hh : Prompt.Heard surface t₀ h t) :
    Within m input t := by
  induction hh with
  | start => exact h₀
  | username _ ha ih => exact ih.username ha
  | secret _ ha ih =>
    rw [showGate_surface]
    exact ih.secret ha
  | rejected _ ha _ ih => exact ih.reject ha

theorem rejected_of_heard (hh : Prompt.Heard surface t₀ h t) :
    t.rejected = t₀.rejected + h.count .confirm := by
  induction hh with
  | start => rfl
  | @username h t u _ _ ih =>
    rw [show (surface.await t).2.rejected = t.rejected from rejected_await t, ih]
    simp
  | @secret h t x _ _ ih =>
    rw [showGate_surface, show (surface.await t).2.rejected = t.rejected from rejected_await t, ih]
    simp
  | @rejected h t _ _ _ ih =>
    have hreject : (surface.reject (surface.await t).2).rejected = t.rejected + 1 :=
      congrArg (· + 1) (rejected_await t)
    rw [hreject, ih]
    simp [Nat.add_assoc]

structure Spent (m : Nat) (input : ρ) (o : Outcome) (x : Recorded (Terminal ρ ω)) : Prop where
  awaits : x.calls.countP Call.isAwait ≤ 2 * m + 2
  lines : ∃ k ≤ m + 1, x.state.input = LineReader.skip k input
  rejects : x.calls.countP Call.isReject = x.state.rejected
  rejected_le : x.state.rejected ≤ m
  given_up : x.state.rejected = m → o = .declined

variable {x₀ x : Recorded (Terminal ρ ω)} {o : Outcome}

theorem spent_of_heard (hh : Prompt.Heard surface.recorded x₀ h x)
    (h₀ : Within m input x₀.state) (hzero : x₀.state.rejected = 0)
    (hrem : x₀.state.remaining ≤ 2 * m + 1) (hawait : x₀.calls.countP Call.isAwait = 0)
    (hreject : x₀.calls.countP Call.isReject = 0)
    (ho : o = .declined ∨ x.state.await.1 = .ok .confirm) :
    Spent m input o (surface.recorded.close (surface.recorded.await x).2) := by
  have hstate := Prompt.heard_of_recorded hh
  have hw := within_of_heard h₀ hstate
  have hrejected : x.state.await.2.close.rejected = x.state.rejected := rejected_await x.state
  constructor
  · have hle : h.length + x.state.remaining ≤ x₀.state.remaining :=
      Prompt.remaining_of_heard hstate
    have hcount := Prompt.awaits_of_heard hh
    simp only [Prompt.calls_close, Prompt.calls_await, List.countP_append, List.countP_singleton,
      Call.isAwait, if_true]
    simp only [Bool.false_eq_true, if_false]
    omega
  · exact hw.lines_await
  · have hcount := Prompt.rejects_of_heard hh
    have hcount' := rejected_of_heard hstate
    change _ = x.state.await.2.close.rejected
    simp only [Prompt.calls_close, Prompt.calls_await, List.countP_append, List.countP_singleton,
      Call.isReject, Bool.false_eq_true, if_false]
    omega
  · change x.state.await.2.close.rejected ≤ m
    rw [hrejected]
    exact hw.rejected_le
  · change x.state.await.2.close.rejected = m → _
    rw [hrejected]
    intro hm
    rcases ho with ho | ha
    · exact ho
    · have hlt := hw.rejected_lt (by simp [(movedTo_of_confirm ha).1])
      omega

theorem run_spent (r : Remote) (prior : Option Credential) (settings : Settings) (input : ρ)
    (output : ω) (n : Nat) (hideSecret : Bool) :
    let x₀ : Recorded (Terminal ρ ω) := .start (new input output n hideSecret)
    Spent (max n 1) input (Prompt.run surface.recorded r prior settings x₀).1
      (Prompt.run surface.recorded r prior settings x₀).2 := by
  intro x₀
  let l := Layout.of r prior settings
  obtain ⟨hw, hzero, hrem⟩ := present_new l input output n hideSecret
  cases hp : (surface.recorded.present l x₀).1 with
  | error e =>
    rw [Prompt.run_of_fault hp]
    obtain ⟨k, hk, hinput⟩ := hw.lines
    exact {
      awaits := Nat.zero_le _
      lines := ⟨k, by omega, hinput⟩
      rejects := hzero.symm
      rejected_le := hw.rejected_le
      given_up := fun _ => rfl }
  | ok _ =>
    obtain ⟨h, x, hh, hends⟩ := Prompt.run_ends r prior settings hp
    obtain ⟨hclose, ho⟩ := hends.closed
    rw [hclose]
    exact spent_of_heard hh hw hzero hrem rfl rfl ho

end Terminal

/-- The counts of what a prompt uses are bounded by the limit on attempts, a limit of none counting
as one, on every reader and on every writer. The rejections stay within the width of the limit. -/
theorem ask_attempts {ρ ω : Type} [LineReader ρ] [SecretReader ρ] [TextWriter ω]
    (r : Remote) (prior : Option Credential) (settings : Settings) (input : ρ) (output : ω)
    (hideSecret : Bool) :
    let m := max settings.maxAttempts 1
    let t₀ : Terminal ρ ω := .new input output settings.maxAttempts hideSecret
    ∃ o x, Prompt.ask Terminal.surface.recorded .interactive r prior settings (.start t₀) =
        .ok (o, x) ∧
      Prompt.ask Terminal.surface .interactive r prior settings t₀ = .ok (o, x.state) ∧
      x.calls.countP Call.isAwait ≤ 2 * m + 2 ∧
      (∃ k ≤ m + 1, x.state.input = LineReader.skip k input) ∧
      x.calls.countP Call.isReject ≤ m ∧
      (∀ h t, Prompt.Heard Terminal.surface (t₀.present (.of r prior settings)).2 h t →
        t.rejected ≤ m) ∧
      x.state.rejected ≤ m ∧
      (settings.maxAttempts < UInt32.size → x.state.rejected < UInt32.size) ∧
      (x.state.rejected = m → o = .declined) := by
  intro m t₀
  have hspent : Terminal.Spent m input
      (Prompt.run Terminal.surface.recorded r prior settings (.start t₀)).1
      (Prompt.run Terminal.surface.recorded r prior settings (.start t₀)).2 :=
    Terminal.run_spent r prior settings input output settings.maxAttempts hideSecret
  have hrun := Prompt.run_recorded Terminal.surface r prior settings t₀
  obtain ⟨hw, -, -⟩ :=
    Terminal.present_new (.of r prior settings) input output settings.maxAttempts hideSecret
  rw [Prompt.ask_interactive, Prompt.ask_interactive, hrun]
  generalize Prompt.run Terminal.surface.recorded r prior settings (.start t₀) = result at hspent ⊢
  obtain ⟨hawaits, hlines, hrejects, hle, hup⟩ := hspent
  refine ⟨result.1, result.2, rfl, rfl, hawaits, hlines, hrejects.trans_le hle, ?_, hle, ?_, hup⟩
  · intro h t hh
    exact (Terminal.within_of_heard hw hh).rejected_le
  · intro hsize
    have hone : 1 < UInt32.size := by decide
    omega

end GitLogin
