import GitLogin.Proofs.Attempts
import GitLogin.Proofs.Slices
import GitLogin.Session
import GitLogin.Stream.Sink
import GitLogin.Stream.Unseen
import GitLogin.Surface.Script
import GitLogin.Url.Parser

/-!
The program with its checks: a cut of a text, a number of a fixed width and the misuse of a prompt
panic where they fail. `session_never_panics`: no check fails, so each run is the same as without.
Positions in a text and counts of lines or of scripted answers are not checked, as a machine
word holds more than a run gets to.
-/

namespace GitLogin

/-- A surface with the count that it goes on to when it rejects. -/
structure Counted (σ : Type) extends Surface σ where
  count : σ → Except Panic Nat

namespace Counted

variable {σ : Type}

def Counts (C : Counted σ) (s₀ : σ) : Prop :=
  ∀ h s, Prompt.Heard C.toSurface s₀ h s → (C.await s).1 = .ok .confirm →
    ∃ n, C.count (C.await s).2 = .ok n

def Ready (C : Counted σ) (s : σ) : Prop :=
  ∀ l, C.Counts (C.setEnabled false (C.present l s).2)

end Counted

def Script.counted : Counted Script where
  toSurface := Script.surface
  count s := .ok (s.rejected + 1)

def Terminal.counted {ρ ω : Type} [LineReader ρ] [SecretReader ρ] [TextWriter ω] :
    Counted (Terminal ρ ω) where
  toSurface := surface
  count t := Checked.add UInt32.size t.rejected 1

namespace Checked

section Forms

def defaultUsername (r : Remote) (prior : Option Credential) : Except Panic (Option String) :=
  match prior.bind Credential.username with
  | some username => .ok (some username)
  | none =>
    if r.provider ≠ .gitHub ∨ r.isKey then .ok none
    else
      match r.path with
      | some path => owner path
      | none => .ok none

def headerFor (r : Remote) (s : Settings) : Except Panic Wording :=
  match r.keyFile with
  | none => (elide s.uriWidth r.uri).map .logInTo
  | some file => (baseName file).map .keyPassword

def layout (r : Remote) (prior : Option Credential) (s : Settings) : Except Panic Layout := do
  let header ← headerFor r s
  let defaultUsername ← defaultUsername r prior
  .ok {
    title := s.title
    message := header.text
    note := if r.isKey then none else some (Layout.noteFor r.provider).text
    provider := r.provider
    isKey := r.isKey
    usernameField :=
      if r.isKey ∨ r.provider = .gitHub then none
      else some ⟨Wording.usernameLabel, defaultUsername.getD ""⟩
    secretLabel :=
      if ¬r.isKey ∧ r.provider = .gitHub then Wording.tokenLabel else Wording.passwordLabel
    secretPrefilled := (prior.bind Credential.secret).isSome
    defaultUsername }

def resolvedUsername (f : Fields) (r : Remote) : Except Panic (Option String) :=
  match r.keyFile with
  | some file => (baseName file).map Text.nonBlank?
  | none => .ok (Text.nonBlank? f.username)

def resolve (f : Fields) (r : Remote) (s : Settings) : Except Panic Credential := do
  let username ← resolvedUsername f r
  .ok ⟨username, Text.nonEmpty? f.secret <|> username.bind fun _ => s.placeholder? r.provider⟩

variable (r : Remote) (prior : Option Credential)

theorem defaultUsername_eq : defaultUsername r prior = .ok (r.defaultUsername prior) := by
  rw [defaultUsername, Remote.defaultUsername]
  cases prior.bind Credential.username with
  | some username => rfl
  | none =>
    by_cases h : r.provider ≠ .gitHub ∨ r.isKey = true
    · simp only [if_pos h]
    · simp only [if_neg h]
      cases r.path with
      | none => rfl
      | some path =>
        simp only [owner_eq, Option.map_some]
        cases path.toList <;> rfl

theorem layout_eq {s : Settings} (h : s.uriWidth < UInt64.size) :
    layout r prior s = .ok (.of r prior s) := by
  have hheader : headerFor r s = .ok (Layout.headerFor r s) := by
    rw [headerFor, Layout.headerFor]
    cases r.keyFile with
    | none => simp only [elide_eq h, Except.map]
    | some file => simp only [baseName_eq, Except.map]
  simp only [layout, hheader, defaultUsername_eq]
  rfl

theorem resolve_eq (f : Fields) (s : Settings) : resolve f r s = .ok (f.resolve r s) := by
  have husername : resolvedUsername f r = .ok (f.resolvedUsername r) := by
    rw [resolvedUsername, Fields.resolvedUsername]
    cases r.keyFile with
    | none => rfl
    | some file => simp only [baseName_eq, Except.map]
  rw [resolve, husername]
  rfl

end Forms

section Prompts

variable {σ : Type}

def follow (C : Counted σ) (r : Remote) (settings : Settings) (f : Fields) (g : Gate) (s : σ) :
    Except Panic (Outcome × σ) :=
  match _h : (C.await s).1 with
  | .error _ | .ok .cancel => .ok (.declined, C.close (C.await s).2)
  | .ok (.username username) => follow C r settings { f with username } g (C.await s).2
  | .ok (.secret secret) =>
    follow C r settings { f with secret } (g.feed secret.length).1
      (Prompt.showGate C.toSurface (g.feed secret.length) (C.await s).2)
  | .ok .confirm =>
    if g.isEnabled then
      (resolve f r settings).map fun c => (.confirmed c, C.close (C.await s).2)
    else
      match C.count (C.await s).2 with
      | .error p => .error p
      | .ok _ => follow C r settings f g (C.reject (C.await s).2)
termination_by C.remaining s
decreasing_by
  · exact C.remaining_username _ _ _h
  · exact Nat.lt_of_le_of_lt (Prompt.remaining_showGate ..) (C.remaining_secret _ _ _h)
  · exact C.remaining_confirm _ _h

def run (C : Counted σ) (r : Remote) (prior : Option Credential) (settings : Settings) (s : σ) :
    Except Panic (Outcome × σ) := do
  let layout ← layout r prior settings
  match C.present layout s with
  | (.error _, s) => .ok (.declined, C.close s)
  | (.ok (), s) =>
    follow C r settings (.seed layout prior) .initial (C.setEnabled Gate.initial.isEnabled s)

def ask (C : Counted σ) (mode : Mode) (r : Remote) (prior : Option Credential)
    (settings : Settings) (s : σ) : Except Panic (Outcome × σ) :=
  if mode.isInteractive then run C r prior settings s else .error (.misuse (.promptedIn mode))

def promptWith (C : Counted σ) (settings : Settings) (mode : Mode) (r : Remote)
    (prior : Option Credential) (opening : Opening σ) :
    Except Panic (Except Failure Outcome × Option σ) :=
  if mode.isInteractive then
    match opening settings with
    | .error e => .ok (.error (.openingSurface e), none)
    | .ok s => (ask C mode r prior settings s).map fun (outcome, s) => (.ok outcome, some s)
  else .ok (.error (.promptingDisabled r.uri mode), none)

variable {C : Counted σ} {settings : Settings}

theorem follow_eq {r : Remote} {s₀ s : σ} {h : History} {f : Fields} (hC : C.Counts s₀)
    (hh : Prompt.Heard C.toSurface s₀ h s) :
    follow C r settings f (.after h) s =
      .ok (Prompt.follow C.toSurface r settings f (.after h) s) := by
  -- the gate is shut whenever a confirm is turned down, so the prompt goes on from a longer
  -- history
  generalize hg : Gate.after h = g
  fun_induction Prompt.follow C.toSurface r settings f g s generalizing h with
  | case1 f g s e ha =>
    rw [follow]
    split <;> simp_all
  | case2 f g s ha =>
    rw [follow]
    split <;> simp_all
  | case3 f g s u ha ih =>
    subst hg
    rw [← ih (hh.username ha) (Gate.after_username h u), follow]
    split <;> simp_all
  | case4 f g s t ha ih =>
    subst hg
    rw [← ih (hh.secret ha) (Gate.after_secret h t), follow]
    split <;> simp_all
  | case5 f g s ha hopen =>
    rw [follow]
    split <;> simp_all [resolve_eq, Except.map]
  | case6 f g s ha hshut ih =>
    subst hg
    have hr : ¬h.HasSecret := fun hs => hshut (Gate.isEnabled_after.2 hs)
    obtain ⟨n, hn⟩ := hC h s hh ha
    rw [← ih (hh.rejected ha hr) (Gate.after_confirm h), follow]
    split <;> simp_all

theorem run_eq {r : Remote} {prior : Option Credential} {s : σ}
    (hwidth : settings.uriWidth < UInt64.size) (hC : C.Ready s) :
    run C r prior settings s = .ok (Prompt.run C.toSurface r prior settings s) := by
  have hstart := hC (.of r prior settings)
  simp only [run, layout_eq r prior hwidth, bind, Except.bind, Prompt.run]
  generalize C.present (.of r prior settings) s = presented at hstart
  obtain ⟨_ | _, s'⟩ := presented
  · rfl
  · exact follow_eq hstart .start

theorem promptWith_eq {opening : Opening σ} (hwidth : settings.uriWidth < UInt64.size)
    (hopening : ∀ s, opening settings = .ok s → C.Ready s) (mode : Mode) (r : Remote)
    (prior : Option Credential) :
    promptWith C settings mode r prior opening =
      .ok (Session.promptWith C.toSurface settings mode r prior opening) := by
  rw [promptWith, Session.promptWith]
  split
  · next hmode =>
    cases hs : opening settings with
    | error e => rfl
    | ok s =>
      simp only [ask, Prompt.ask, if_pos hmode, run_eq hwidth (hopening s hs), Except.map]
  · rfl

end Prompts

section Sessions

variable [UrlParser] {σ ω : Type} [TextWriter ω]

def get (C : Counted σ) (input : Source) (output : ω) (settings : Settings) (mode : Mode)
    (opening : Opening σ) : Except Panic (Run σ ω Unit) :=
  match Request.read input with
  | .error e => .ok ⟨.error (.readingCredential e), output, none⟩
  | .ok request => do
    let prompted ← promptWith C settings mode request.remote request.prior opening
    .ok (match prompted with
      | (.error e, s) => ⟨.error e, output, s⟩
      | (.ok .declined, s) => ⟨.ok (), output, s⟩
      | (.ok (.confirmed c), s) =>
        match c.send output with
        | (.error e, output) => ⟨.error (.writingCredential e), output, s⟩
        | (.ok (), output) => ⟨.ok (), output, s⟩)

def knownUsername (q : Question) : Except Panic (Option String) :=
  match q with
  | .username _ => defaultUsername q.remote q.prior
  | _ => .ok none

def askpass (C : Counted σ) (question : String) (output : ω) (settings : Settings) (mode : Mode)
    (opening : Opening σ) : Except Panic (Run σ ω Bool) := do
  let q ← parse question
  if q.isUsername then
    let known ← knownUsername q
    .ok (match known with
      | none => ⟨.ok false, output, none⟩
      | some username => Session.answered username output none)
  else
    let prompted ← promptWith C settings mode q.remote q.prior opening
    .ok (match prompted with
      | (.error e, s) => ⟨.error e, output, s⟩
      | (.ok .declined, s) => ⟨.ok false, output, s⟩
      | (.ok (.confirmed c), s) => Session.answered (c.secret.getD "") output s)

variable {C : Counted σ} {settings : Settings} {opening : Opening σ}

theorem get_eq (hwidth : settings.uriWidth < UInt64.size)
    (hopening : ∀ s, opening settings = .ok s → C.Ready s) (input : Source) (output : ω)
    (mode : Mode) : get C input output settings mode opening =
      .ok (Session.get C.toSurface input output settings mode opening) := by
  rw [get, Session.get]
  cases Request.read input with
  | error e => rfl
  | ok request =>
    simp only [promptWith_eq hwidth hopening]
    rfl

theorem askpass_eq (hwidth : settings.uriWidth < UInt64.size)
    (hopening : ∀ s, opening settings = .ok s → C.Ready s) (question : String) (output : ω)
    (mode : Mode) : askpass C question output settings mode opening =
      .ok (Session.askpass C.toSurface question output settings mode opening) := by
  have hknown (q : Question) : knownUsername q = .ok q.knownUsername := by
    cases q with
    | username url => simp only [knownUsername, Question.knownUsername, defaultUsername_eq]
    | _ => rfl
  simp only [askpass, Session.askpass, parse_eq, hknown, promptWith_eq hwidth hopening, bind,
    Except.bind]
  split
  · rfl
  · rfl

end Sessions

end Checked

theorem Script.ready (s : Script) : counted.Ready s :=
  fun _ _ s' _ _ => ⟨s'.await.2.rejected + 1, rfl⟩

namespace Terminal

variable {ρ ω : Type} {t t' : Terminal ρ ω} {step : Step}

/-- The limit is a number of 32 bits, and there is room for one more rejection while one can
come. -/
structure Roomy (t : Terminal ρ ω) : Prop where
  maxAttempts : t.maxAttempts < UInt32.size
  rejected : t.step ≠ .cancel → t.rejected + 1 < UInt32.size

theorem Roomy.moved (hr : t.Roomy) (hstep : t.step ≠ .cancel) (hm : t.MovedTo t' step) :
    t'.Roomy where
  maxAttempts := hm.1 ▸ hr.maxAttempts
  rejected _ := hm.2.1 ▸ hr.rejected hstep

variable [TextWriter ω]

theorem Roomy.reject (hr : t.Roomy) : t.reject.Roomy where
  maxAttempts := hr.maxAttempts
  rejected := by
    have hmax := hr.maxAttempts
    rw [step_reject, rejected_reject]
    intro hne
    by_cases hle : t.maxAttempts ≤ t.rejected + 1
    · simp [hle] at hne
    · omega

theorem roomy_present (hmax : t.maxAttempts < UInt32.size) (hroom : t.rejected + 1 < UInt32.size)
    (l : Layout) : (t.present l).2.Roomy := by
  obtain ⟨sent, output, hsend⟩ := send_eq (greeting l) t
  rw [present, hsend]
  cases sent with
  | error e => exact ⟨hmax, fun _ => hroom⟩
  | ok => exact ⟨hmax, fun _ => hroom⟩

variable [LineReader ρ] [SecretReader ρ] {t₀ : Terminal ρ ω} {h : History}

theorem roomy_of_heard (h₀ : t₀.Roomy) (hh : Prompt.Heard surface t₀ h t) : t.Roomy := by
  induction hh with
  | start => exact h₀
  | username _ ha ih =>
    obtain ⟨hstep, hmove⟩ := movedTo_of_username ha
    exact ih.moved (by simp [hstep]) hmove
  | secret _ ha ih =>
    obtain ⟨hstep, hmove⟩ := movedTo_of_secret ha
    rw [showGate_surface]
    exact ih.moved (by rcases hstep with hstep | hstep <;> simp [hstep]) hmove
  | rejected _ ha _ ih =>
    obtain ⟨hstep, hmove⟩ := movedTo_of_confirm ha
    exact (ih.moved (by simp [hstep]) hmove).reject

theorem ready (hmax : t.maxAttempts < UInt32.size) (hroom : t.rejected + 1 < UInt32.size) :
    counted.Ready t := by
  intro l h t' hh ha
  have hr : t'.Roomy := roomy_of_heard (roomy_present hmax hroom l) hh
  obtain ⟨hstep, hmove⟩ := movedTo_of_confirm ha
  have hlt : t'.await.2.rejected + 1 < UInt32.size :=
    (hr.moved (by simp [hstep]) hmove).rejected (by simp [hmove.2.2])
  exact ⟨_, Checked.add_eq hlt⟩

end Terminal

/-- A run on the surface comes out the same with its checks, and prompts only where it may. -/
structure Counted.Safe [UrlParser] {σ : Type} (C : Counted σ) (settings : Settings)
    (opening : Opening σ) : Prop where
  get : ∀ {ω : Type} [TextWriter ω] (input : Source) (output : ω) (mode : Mode),
    Checked.get C input output settings mode opening =
      .ok (Session.get C.toSurface input output settings mode opening)
  askpass : ∀ {ω : Type} [TextWriter ω] (question : String) (output : ω) (mode : Mode),
    Checked.askpass C question output settings mode opening =
      .ok (Session.askpass C.toSurface question output settings mode opening)
  automated : ∀ (r : Remote) (prior : Option Credential),
    Session.promptWith C.toSurface settings .automated r prior opening =
      (.error (.promptingDisabled r.uri .automated), none)
  proper : ∀ (mode : Mode) (r : Remote) (prior : Option Credential) (m : Misuse),
    (Session.promptWith C.toSurface settings mode r prior opening).1 ≠ .error (.misuse m)

theorem Counted.safe [UrlParser] {σ : Type} {C : Counted σ} {settings : Settings}
    {opening : Opening σ} (hwidth : settings.uriWidth < UInt64.size)
    (hopening : ∀ s, opening settings = .ok s → C.Ready s) : C.Safe settings opening where
  get := Checked.get_eq hwidth hopening
  askpass := Checked.askpass_eq hwidth hopening
  automated _ _ := rfl
  proper mode r prior m := by
    rw [Session.promptWith]
    split
    · next hmode =>
      cases opening settings with
      | error e => simp
      | ok s => simp [Prompt.ask, hmode]
    · simp

/-- No front end panics, whatever is read, shown or typed, for a width and a limit on attempts that
machine numbers can hold. -/
theorem session_never_panics [UrlParser] {ρ ω : Type} [LineReader ρ] [SecretReader ρ]
    [TextWriter ω] {settings : Settings} (hwidth : settings.uriWidth < UInt64.size)
    (script : Opening Script)
    {terminal : Opening (Terminal ρ ω)}
    (hterminal : ∀ t, terminal settings = .ok t →
      ∃ input output hideSecret, ∃ n < UInt32.size, t = .new input output n hideSecret) :
    Script.counted.Safe settings script ∧ Terminal.counted.Safe settings terminal ∧
      ∀ operation input, Session.ignore operation input = .ok () ∨
        ∃ e, Session.ignore operation input = .error (.readingIgnored operation e) := by
  refine ⟨Counted.safe hwidth fun s _ => s.ready, Counted.safe hwidth fun t ht => ?_, ?_⟩
  · obtain ⟨input, output, hideSecret, n, hn, rfl⟩ := hterminal t ht
    have hone : 1 < UInt32.size := by decide
    exact Terminal.ready (Nat.max_lt.2 ⟨hn, hone⟩) hone
  · intro operation input
    rw [Session.ignore]
    cases Request.read input with
    | error e => exact .inr ⟨e, rfl⟩
    | ok => exact .inl rfl

theorem session_never_panics_unquoted :
    let settings : Settings := { uriWidth := UInt64.size - 1, maxAttempts := UInt32.size - 1 }
    let terminal : Opening (Terminal Source Sink) := fun s =>
      .ok (.new (.ofString "\n\nключ\n") {} s.maxAttempts)
    Checked.parse "ENTER PASSPHRASE FOR ключ: " = .ok (.passphrase "ключ") ∧
      Checked.askpass Terminal.counted "ENTER PASSPHRASE FOR ключ: " ({} : Sink) settings
          .interactive terminal =
        .ok (Session.askpass Terminal.surface "ENTER PASSPHRASE FOR ключ: " {} settings
          .interactive terminal) := by
  -- a key whose name is not in ASCII, on a terminal that may turn down as often as it can count
  intro settings terminal
  have hwidth : settings.uriWidth < UInt64.size := by decide
  have hlimit : settings.maxAttempts < UInt32.size := by decide
  obtain ⟨-, hsafe, -⟩ := session_never_panics hwidth (fun _ => .ok { answers := [] })
    fun t (ht : terminal settings = .ok t) =>
      ⟨.ofString "\n\nключ\n", {}, false, _, hlimit, by cases ht; rfl⟩
  exact ⟨by decide, hsafe.askpass ..⟩

end GitLogin
