import GitLogin.Proofs.Exchange
import GitLogin.Stream.Unseen

namespace GitLogin

namespace Terminal

/-- What typed lines stand for on a form: a username if there is a field for it, and secrets. -/
inductive Answers (l : Layout) :
    List (Option String) → Option String → List (Option String) → Prop
  | unasked (lines : List (Option String)) : l.usernameField = none → Answers l lines none lines
  | asked {f : UsernameField} (u : String) (lines : List (Option String)) :
      l.usernameField = some f →
      Answers l (some u :: lines) (some (if u.isEmpty then f.initial else u)) lines

/-- The first line that is not empty is among the first `m`, and all before it can be read. -/
def FirstSecret (m : Nat) (secrets : List (Option String)) (s : String) : Prop :=
  ∃ k rest, k < m ∧ s ≠ "" ∧ secrets = List.replicate k (some "") ++ some s :: rest

variable {l : Layout} {ls : List String} {h : History} {lines rest : List (Option String)}

theorem Opened.answers (ho : Opened l ls h) (rest : List (Option String)) :
    Answers l (ls.map some ++ rest) h.username? rest := by
  cases ho with
  | unasked hf => exact .unasked rest hf
  | asked line hf => exact .asked line rest hf

theorem Answers.exists_line {f : UsernameField} {u : Option String}
    {secrets : List (Option String)} (ha : Answers l lines u secrets)
    (hf : l.usernameField = some f) : ∃ x, lines = some x :: secrets := by
  cases ha with
  | unasked _ hf' => simp [hf] at hf'
  | asked x _ _ => exact ⟨x, rfl⟩

theorem Answers.unique {u u' : Option String} {secrets secrets' : List (Option String)}
    (ha : Answers l lines u secrets) (ha' : Answers l lines u' secrets') :
    u = u' ∧ secrets = secrets' := by
  cases ha with
  | unasked _ hf =>
    cases ha' with
    | unasked => exact ⟨rfl, rfl⟩
    | asked _ _ hf' => simp [hf] at hf'
  | asked _ _ hf =>
    cases ha' with
    | unasked _ hf' => simp [hf] at hf'
    | asked _ _ hf' =>
      cases hf.symm.trans hf'
      exact ⟨rfl, rfl⟩

theorem Opened.secrets_eq {k : Nat} {u : Option String} {secrets : List (Option String)}
    (ho : Opened l ls h) (ha : Answers l ((ls ++ List.replicate k "").map some ++ rest) u secrets) :
    secrets = List.replicate k (some "") ++ rest := by
  rw [List.map_append, List.append_assoc, List.map_replicate] at ha
  exact (ha.unique (ho.answers _)).2

theorem username?_rounds (h : History) (k : Nat) :
    History.username? (h ++ rounds k) = h.username? := by
  induction k with
  | zero => simp
  | succ k ih =>
    rw [rounds_succ, ← List.append_assoc, ← List.append_assoc, History.username?_append,
      History.username?_append, ih]
    rfl

theorem replicate_append_cons {α : Type} {a x : α} {xs ys : List α} {k n : Nat} (hne : x ≠ a)
    (heq : List.replicate k a ++ x :: xs = List.replicate n a ++ ys) :
    n ≤ k ∧ ys = List.replicate (k - n) a ++ x :: xs := by
  induction n generalizing k with
  | zero => exact ⟨Nat.zero_le k, heq.symm⟩
  | succ n ih =>
    cases k with
    | zero =>
      simp only [List.replicate_zero, List.nil_append, List.replicate_succ, List.cons_append] at heq
      exact absurd (List.cons.inj heq).1 hne
    | succ k =>
      simp only [List.replicate_succ, List.cons_append, List.cons.injEq, true_and] at heq
      obtain ⟨hle, hys⟩ := ih heq
      exact ⟨Nat.succ_le_succ hle, by rw [hys, Nat.succ_sub_succ]⟩

theorem FirstSecret.unique {m : Nat} {secrets : List (Option String)} {s s' : String}
    (hs : FirstSecret m secrets s) (hs' : FirstSecret m secrets s') : s = s' := by
  obtain ⟨k, rest, -, hne, rfl⟩ := hs
  obtain ⟨k', rest', -, hne', heq⟩ := hs'
  obtain ⟨hle, hrest⟩ := replicate_append_cons (by simpa using hne) heq
  obtain ⟨hle', -⟩ := replicate_append_cons (by simpa using hne') heq.symm
  obtain rfl : k = k' := Nat.le_antisymm hle' hle
  rw [Nat.sub_self] at hrest
  exact (Option.some.inj (List.cons.inj hrest).1).symm

section Reliable

variable {ρ : Type} {t t₀ : Terminal ρ Sink} {m : Nat}

theorem reliable_reject (hw : t.output.Reliable) : t.reject.output.Reliable := by
  obtain ⟨complaint, heq⟩ := output_reject t
  rw [heq, hw.write]
  exact hw.withWritten _

theorem send_of_reliable (hw : t.output.Reliable) (text : String) :
    ∃ output, output.Reliable ∧ t.send text = (.ok (), { t with output }) := by
  rw [send, hw.send]
  exact ⟨_, hw.withWritten _, rfl⟩

theorem present_of_reliable (hw : t.output.Reliable) (l : Layout) :
    ∃ output, output.Reliable ∧ t.present l = (.ok (), { t with
      output
      step := match l.focus with | .username => .username | .secret => .secret
      layout := some l }) := by
  obtain ⟨output, ho, hsend⟩ := send_of_reliable hw (greeting l)
  refine ⟨output, ho, ?_⟩
  cases hf : l.focus with
  | username => simp [present, hsend, hf]
  | secret => simp [present, hsend, hf]

variable [LineReader ρ]

theorem askUsername_of_line {f : UsernameField} {raw : String} {input : ρ}
    (hw : t.output.Reliable) (hread : LineReader.readLine t.input = (.ok (some raw), input)) :
    ∃ u, (t.askUsername f).1 = .ok (.username u) := by
  obtain ⟨output, -, hsend⟩ := send_of_reliable hw (usernameQuestion f)
  simp [askUsername, hsend, readLine, hread]

variable [SecretReader ρ]

theorem reliable_await (hw : t.output.Reliable) : t.await.2.output.Reliable := by
  rcases output_await t with heq | ⟨question, heq⟩
  · rwa [heq]
  · rw [heq, hw.send]
    exact hw.withWritten _

theorem reliable_of_heard (hw : t₀.output.Reliable) (hh : Prompt.Heard surface t₀ h t) :
    t.output.Reliable := by
  induction hh with
  | start => exact hw
  | username _ _ ih => exact reliable_await ih
  | secret _ _ ih =>
    rw [showGate_surface]
    exact reliable_await ih
  | rejected _ _ _ ih => exact reliable_reject (reliable_await ih)

theorem askSecret_of_line {label raw : String} {input : ρ} (hs : t.hideSecret = false)
    (hw : t.output.Reliable) (hread : LineReader.readLine t.input = (.ok (some raw), input)) :
    ∃ x, (t.askSecret label).1 = .ok (.secret x) := by
  obtain ⟨output, -, hsend⟩ := send_of_reliable hw (label ++ ": ")
  simp [askSecret, hsend, readSecret, hs, readLine, hread]

theorem await_of_line {raw : String} {input : ρ} (hs : t.Shows l m) (hw : t.output.Reliable)
    (hstep : t.step = .username ∨ t.step = .secret)
    (hread : LineReader.readLine t.input = (.ok (some raw), input)) :
    ∃ e, t.await.1 = .ok e ∧ e ≠ .cancel := by
  rw [await, hs.layout]
  simp only
  split
  · obtain ⟨u, hu⟩ := askUsername_of_line hw hread
    exact ⟨_, hu, by simp⟩
  · obtain ⟨x, hx⟩ := askSecret_of_line hs.hideSecret hw hread
    exact ⟨_, hx, by simp⟩
  · obtain ⟨x, hx⟩ := askSecret_of_line hs.hideSecret hw hread
    exact ⟨_, hx, by simp⟩
  · next hc => simp [hc] at hstep
  · next hc => simp [hc] at hstep

end Reliable

section Whole

variable {t t₀ : Terminal Source Sink} {m : Nat} {r : Remote} {prior : Option Credential}

theorem exchanged_start (hm : 0 < m) (l : Layout) (hl : t.Shows l m) (hr : t.rejected = 0)
    (hstep : t.step = match l.focus with | .username => .username | .secret => .secret) :
    Exchanged l m t.input [] t := by
  refine ⟨hl, [], .none, ?_⟩
  rw [hr, hstep, Layout.focus]
  cases hf : l.usernameField with
  | none => exact .secret (.unasked hf) hm
  | some f => exact .username hf

variable [SecretReader Source]

theorem await_of_confirm (hs : t.Shows l m) (hstep : t.step = .confirm) :
    t.await.1 = .ok .confirm := by
  rw [await, hs.layout]
  simp only [hstep]

theorem typed_ne_cons (hs : t.Shows l m) (hw : t.output.Reliable)
    (hstep : t.step = .username ∨ t.step = .secret)
    (hend : (∃ e, t.await.1 = .error e) ∨ t.await.1 = .ok .cancel) (x : String) :
    t.input.typed ≠ some x :: rest := by
  intro htyped
  obtain ⟨line, lines, hlines, hx, -⟩ := List.map_eq_cons_iff.1 htyped
  obtain ⟨raw, rfl, -⟩ := Option.map_eq_some_iff.1 hx
  have hread : LineReader.readLine t.input = (.ok (some raw), ⟨lines, t.input.broken⟩) :=
    Source.readLine_eq_iff.2 ⟨hlines, rfl⟩
  obtain ⟨e, ha, hne⟩ := await_of_line hs hw hstep hread
  simp [ha, hne] at hend

theorem Exchanged.not_firstSecret {input : Source} {u : Option String}
    {secrets : List (Option String)} {s : String} (hx : Exchanged l m input h t)
    (hw : t.output.Reliable)
    (hend : (∃ e, t.await.1 = .error e) ∨ t.await.1 = .ok .cancel)
    (ha : Answers l input.typed u secrets) : ¬FirstSecret m secrets s := by
  obtain ⟨hs, ls, hread, hreach⟩ := hx
  rintro ⟨k, rest, hk, hne, rfl⟩
  have htyped := Source.typed_of_linesRead hread
  have hne' : some s ≠ some "" := by simpa using hne
  -- the line of the secret is still in the input, and one that can be read is in front of it or it
  -- is next itself: either way the prompt would go on
  generalize hstep : t.step = step, t.rejected = n at hreach
  cases hreach with
  | username hf =>
    obtain ⟨x, hx⟩ := ha.exists_line hf
    exact typed_ne_cons hs hw (.inl hstep) hend x (htyped.symm.trans hx)
  | secret ho _ =>
    have heq := ho.secrets_eq (htyped ▸ ha)
    obtain ⟨-, hrest⟩ := replicate_append_cons hne' heq
    cases hn : k - n with
    | zero => exact typed_ne_cons hs hw (.inr hstep) hend s (by simpa [hn] using hrest)
    | succ d =>
      rw [hn, List.replicate_succ, List.cons_append] at hrest
      exact typed_ne_cons hs hw (.inr hstep) hend "" hrest
  | confirm => simp [await_of_confirm hs hstep] at hend
  | cancel ho =>
    have heq := ho.secrets_eq (htyped ▸ ha)
    exact absurd (replicate_append_cons hne' heq).1 (by omega)

theorem Exchanged.firstSecret {input : Source} (hx : Exchanged l m input h t)
    (ha : t.await.1 = .ok .confirm) (hs : h.HasSecret) :
    ∃ secrets s, Answers l input.typed h.username? secrets ∧ FirstSecret m secrets s ∧
      h.secret? = some s := by
  obtain ⟨hl, ls, hread, hreach⟩ := hx
  have htyped := Source.typed_of_linesRead hread
  have hmove := await_moves hl ha (by simp)
  generalize t.await.2 = t' at hmove
  cases hmove with
  | confirm hstep =>
    rw [hstep] at hreach
    generalize t.rejected = n at hreach
    cases hreach with
    | @confirm ls h k s ho hk =>
      have hsecret : History.secret? (h ++ rounds n ++ [.secret s]) = some s :=
        History.secret?_append _ _
      have husername : History.username? (h ++ rounds n ++ [.secret s]) = h.username? :=
        (History.username?_append _ _).trans (username?_rounds h n)
      obtain ⟨s', hs', hne⟩ := hs
      cases hsecret.symm.trans hs'
      rw [List.map_append, List.map_append, List.append_assoc, List.append_assoc,
        List.map_replicate] at htyped
      refine ⟨List.replicate n (some "") ++ some s :: t.input.typed, s, ?_,
        ⟨n, t.input.typed, hk, hne, rfl⟩, hsecret⟩
      rw [husername, htyped]
      exact ho.answers _

variable {settings : Settings} {input : Source} {n : Nat}

theorem run_exchanged (r : Remote) (prior : Option Credential) (settings : Settings)
    (input : Source) (n : Nat) : ∃ h t, Exchanged (.of r prior settings) (max n 1) input h t ∧
      t.output.Reliable ∧ Prompt.Ends surface r prior h t
        (Prompt.run surface r prior settings (new input ({} : Sink) n)) := by
  have hw : (new input ({} : Sink) n).output.Reliable := Sink.reliable_empty
  obtain ⟨output, ho, hp⟩ := present_of_reliable hw (.of r prior settings)
  obtain ⟨h, t, hh, hends⟩ := Prompt.run_ends (S := surface) r prior settings
    (congrArg Prod.fst hp)
  rw [show surface.present (.of r prior settings) (new input ({} : Sink) n) = _ from hp] at hh
  have hm : 0 < max n 1 := by omega
  exact ⟨h, t, exchanged_of_heard hm (exchanged_start hm _ ⟨rfl, rfl, rfl⟩ rfl rfl) hh,
    reliable_of_heard ho hh, hends⟩

theorem run_confirmed_iff {c : Credential} :
    (Prompt.run surface r prior settings (new input ({} : Sink) n)).1 = .confirmed c ↔
      ∃ u secrets s, Answers (.of r prior settings) input.typed u secrets ∧
        FirstSecret (max n 1) secrets s ∧ c = ⟨r.loginName prior u, some s⟩ := by
  obtain ⟨h, t, hx, hw, hends⟩ := run_exchanged r prior settings input n
  generalize Prompt.run surface r prior settings (new input ({} : Sink) n) = result at hends ⊢
  have declined (hend : (∃ e, t.await.1 = .error e) ∨ t.await.1 = .ok .cancel) :
      ¬∃ u secrets s, Answers (.of r prior settings) input.typed u secrets ∧
        FirstSecret (max n 1) secrets s ∧ c = ⟨r.loginName prior u, some s⟩ := by
    rintro ⟨u, secrets, s, ha, hs, -⟩
    exact hx.not_firstSecret hw hend ha hs
  cases hends with
  | failed he => simpa using declined (.inl ⟨_, he⟩)
  | cancelled hc => simpa using declined (.inr hc)
  | confirmed hc hs =>
    obtain ⟨secrets, s, ha, hfirst, hsecret⟩ := hx.firstSecret hc hs
    have hcred : h.credential r prior = ⟨r.loginName prior h.username?, some s⟩ := by
      rw [History.credential, hsecret]
    simp only [Outcome.confirmed.injEq, hcred]
    constructor
    · rintro rfl
      exact ⟨_, secrets, s, ha, hfirst, rfl⟩
    · rintro ⟨u, secrets', s', ha', hfirst', rfl⟩
      obtain ⟨rfl, rfl⟩ := ha.unique ha'
      rw [hfirst.unique hfirst']

end Whole

end Terminal

/-- The lines that were typed decide the outcome. A username that is blank counts as none, be it
typed, filled in or the name of a key. -/
theorem ask_terminal [SecretReader Source] (r : Remote) (prior : Option Credential)
    (settings : Settings) (bytes : List UInt8) (broken : Bool) :
    ∃ o t, Prompt.ask Terminal.surface .interactive r prior settings
        (.new (Source.ofBytes bytes broken) ({} : Sink) settings.maxAttempts) = .ok (o, t) ∧
      (∀ c, o = .confirmed c ↔ ∃ u secrets s,
        Terminal.Answers (.of r prior settings) (typedLines bytes broken) u secrets ∧
        Terminal.FirstSecret (max settings.maxAttempts 1) secrets s ∧
        c = ⟨r.loginName prior u, some s⟩) := by
  rw [← Source.typed_ofBytes]
  exact ⟨_, _, Prompt.ask_interactive .., fun _ => Terminal.run_confirmed_iff⟩

/-- A username of two blanks is asked for, typed and then dropped. -/
theorem ask_terminal_blank :
    let r : Remote := { uri := "https://example.com", host := some "example.com" }
    let bytes := Text.Utf8.encode "  \npw\n"
    (Layout.of r none {}).usernameField = some ⟨Wording.usernameLabel, ""⟩ ∧
      typedLines bytes false = [some "  ", some "pw"] ∧
      ∃ t, Prompt.ask Terminal.surface .interactive r none {}
        (.new (Source.ofBytes bytes false) ({} : Sink) ({} : Settings).maxAttempts) =
          .ok (.confirmed ⟨none, some "pw"⟩, t) := by
  intro r bytes
  have hfield : (Layout.of r none {}).usernameField = some ⟨Wording.usernameLabel, ""⟩ := by decide
  have hlines : typedLines bytes false = [some "  ", some "pw"] := by decide
  have hname : r.loginName none (some "  ") = none := by decide
  have hrun : (Prompt.run Terminal.surface r none {}
      (.new (Source.ofBytes bytes false) ({} : Sink) ({} : Settings).maxAttempts)).1 =
        .confirmed ⟨none, some "pw"⟩ := by
    rw [Terminal.run_confirmed_iff, Source.typed_ofBytes, hlines, ← hname]
    exact ⟨_, _, "pw", .asked "  " _ hfield, ⟨0, [], by decide, by decide, rfl⟩, rfl⟩
  rw [Prompt.ask_interactive]
  exact ⟨hfield, hlines, _, congrArg Except.ok (Prod.ext hrun rfl)⟩

end GitLogin
