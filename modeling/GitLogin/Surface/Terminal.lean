import GitLogin.Surface
import GitLogin.Text.Record
import GitLogin.Text.Trim

/-!
A form as an exchange of questions and lines on a terminal: the login name if the form has a
field for it, then the secret, then a confirm. An empty line keeps a login name that is filled
in. A confirm that is turned down asks for the secret again, as often as the limit allows.
-/

namespace GitLogin

inductive Step
  | username
  | secret
  | confirm
  | cancel
  deriving DecidableEq

def Step.name : Step → String
  | .username => "Username"
  | .secret => "Secret"
  | .confirm => "Confirm"
  | .cancel => "Cancel"

structure Terminal (ρ ω : Type) where
  input : ρ
  output : ω
  hideSecret : Bool
  maxAttempts : Nat
  rejected : Nat
  step : Step
  layout : Option Layout

namespace Terminal

variable {ρ ω : Type}

def new (input : ρ) (output : ω) (maxAttempts : Nat) (hideSecret : Bool := false) :
    Terminal ρ ω where
  input := input
  output := output
  hideSecret := hideSecret
  maxAttempts := max maxAttempts 1
  rejected := 0
  step := .secret
  layout := none

section Reading

variable [LineReader ρ]

def readLine (t : Terminal ρ ω) : Except SurfaceFault (Option String) × Terminal ρ ω :=
  match LineReader.readLine t.input with
  | (.error e, input) => (.error (.io e), { t with input })
  | (.ok line, input) => (.ok (line.map Text.chomp), { t with input })

def readSecret [SecretReader ρ] (t : Terminal ρ ω) :
    Except SurfaceFault (Option String) × Terminal ρ ω :=
  if t.hideSecret then
    match SecretReader.readSecret t.input with
    | (.error e, input) => (.error (.io e), { t with input })
    | (.ok secret, input) => (.ok (some secret), { t with input })
  else t.readLine

end Reading

section Writing

variable [TextWriter ω]

def send (text : String) (t : Terminal ρ ω) : Except SurfaceFault Unit × Terminal ρ ω :=
  match TextWriter.send text t.output with
  | (.error e, output) => (.error (.io e), { t with output })
  | (.ok (), output) => (.ok (), { t with output })

def greeting (l : Layout) : String :=
  l.title ++ "\n" ++ l.message ++ "\n" ++ (l.note.map (· ++ "\n")).getD ""

def present (l : Layout) (t : Terminal ρ ω) : Except SurfaceFault Unit × Terminal ρ ω :=
  match t.send (greeting l) with
  | (.error e, t) => (.error e, t)
  | (.ok (), t) =>
    let step := match l.focus with
      | .username => .username
      | .secret => .secret
    (.ok (), { t with step, layout := some l })

def secretLabel (t : Terminal ρ ω) : String := (t.layout.map Layout.secretLabel).getD "Password"

def reject (t : Terminal ρ ω) : Terminal ρ ω :=
  let rejected := t.rejected + 1
  let (step, complaint) :=
    if t.maxAttempts ≤ rejected then (Step.cancel, " is required, giving up.\n")
    else (Step.secret, " must not be empty.\n")
  { t with rejected, step, output := (TextWriter.write (t.secretLabel ++ complaint) t.output).2 }

def close (t : Terminal ρ ω) : Terminal ρ ω :=
  { t with output := (TextWriter.flush t.output).2 }

end Writing

section Asking

variable [LineReader ρ] [SecretReader ρ] [TextWriter ω]

def usernameQuestion (f : UsernameField) : String :=
  if f.initial.isEmpty then f.label ++ ": " else f.label ++ " [" ++ f.initial ++ "]: "

def askUsername (f : UsernameField) (t : Terminal ρ ω) :
    Except SurfaceFault Event × Terminal ρ ω :=
  match t.send (usernameQuestion f) with
  | (.error e, t) => (.error e, t)
  | (.ok (), t) =>
    match t.readLine with
    | (.error e, t) => (.error e, t)
    | (.ok none, t) => (.ok .cancel, t)
    | (.ok (some line), t) =>
      (.ok (.username (if line.isEmpty then f.initial else line)), { t with step := .secret })

def askSecret (label : String) (t : Terminal ρ ω) : Except SurfaceFault Event × Terminal ρ ω :=
  match t.send (label ++ ": ") with
  | (.error e, t) => (.error e, t)
  | (.ok (), t) =>
    match t.readSecret with
    | (.error e, t) => (.error e, t)
    | (.ok none, t) => (.ok .cancel, t)
    | (.ok (some secret), t) => (.ok (.secret secret), { t with step := .confirm })

def await (t : Terminal ρ ω) : Except SurfaceFault Event × Terminal ρ ω :=
  match t.layout with
  | none => (.error .notShown, t)
  | some l =>
    match t.step, l.usernameField with
    | .username, some f => t.askUsername f
    | .username, none | .secret, _ => t.askSecret l.secretLabel
    | .confirm, _ => (.ok .confirm, { t with step := .secret })
    | .cancel, _ => (.ok .cancel, t)

end Asking

def remaining (t : Terminal ρ ω) : Nat :=
  let rounds := max (t.maxAttempts - t.rejected) 1
  match t.step with
  | .username => 2 * rounds + 1
  | .secret => 2 * rounds
  | .confirm => 2 * rounds - 1
  | .cancel => 0

section Bound

def MovedTo (t t' : Terminal ρ ω) (s : Step) : Prop :=
  t'.maxAttempts = t.maxAttempts ∧ t'.rejected = t.rejected ∧ t'.step = s

theorem send_movedTo [TextWriter ω] (text : String) (t : Terminal ρ ω) :
    t.MovedTo (t.send text).2 t.step := by
  unfold send
  split <;> exact ⟨rfl, rfl, rfl⟩

theorem readLine_movedTo [LineReader ρ] (t : Terminal ρ ω) : t.MovedTo t.readLine.2 t.step := by
  unfold readLine
  split <;> exact ⟨rfl, rfl, rfl⟩

theorem readSecret_movedTo [LineReader ρ] [SecretReader ρ] (t : Terminal ρ ω) :
    t.MovedTo t.readSecret.2 t.step := by
  unfold readSecret
  split
  · split <;> exact ⟨rfl, rfl, rfl⟩
  · exact readLine_movedTo t

variable [LineReader ρ] [TextWriter ω]

theorem askUsername_movedTo {f : UsernameField} {t : Terminal ρ ω} {e : Event}
    (h : (t.askUsername f).1 = .ok e) :
    e = .cancel ∨ (∃ u, e = .username u) ∧ t.MovedTo (t.askUsername f).2 .secret := by
  have hs := send_movedTo (usernameQuestion f) t
  unfold askUsername at h ⊢
  split at h
  · cases h
  · rename_i t₁ hsend
    have hr := readLine_movedTo t₁
    split at h
    · cases h
    · cases h
      exact .inl rfl
    · cases h
      simp_all [MovedTo]

variable [SecretReader ρ]

theorem askSecret_movedTo {l : String} {t : Terminal ρ ω} {e : Event}
    (h : (t.askSecret l).1 = .ok e) :
    e = .cancel ∨ (∃ u, e = .secret u) ∧ t.MovedTo (t.askSecret l).2 .confirm := by
  have hs := send_movedTo (l ++ ": ") t
  unfold askSecret at h ⊢
  split at h
  · cases h
  · rename_i t₁ hsend
    have hr := readSecret_movedTo t₁
    split at h
    · cases h
    · cases h
      exact .inl rfl
    · cases h
      simp_all [MovedTo]

theorem await_movedTo {t : Terminal ρ ω} {e : Event} (h : t.await.1 = .ok e) :
    e = .cancel ∨
      (∃ u, e = .username u) ∧ t.step = .username ∧ t.MovedTo t.await.2 .secret ∨
      (∃ u, e = .secret u) ∧ (t.step = .username ∨ t.step = .secret) ∧
        t.MovedTo t.await.2 .confirm ∨
      e = .confirm ∧ t.step = .confirm ∧ t.MovedTo t.await.2 .secret := by
  unfold await at h ⊢
  split at h
  · cases h
  · split at h
    · rcases askUsername_movedTo h with rfl | ⟨hu, hm⟩ <;> simp_all
    · rcases askSecret_movedTo h with rfl | ⟨hu, hm⟩ <;> simp_all
    · rcases askSecret_movedTo h with rfl | ⟨hu, hm⟩ <;> simp_all
    · cases h
      simp_all [MovedTo]
    · cases h
      exact .inl rfl

theorem remaining_username {t : Terminal ρ ω} {u : String} (h : t.await.1 = .ok (.username u)) :
    t.await.2.remaining < t.remaining := by
  rcases await_movedTo h with hc | ⟨_, hs, hm, hr, hs'⟩ | ⟨⟨_, hc⟩, _⟩ | ⟨hc, _⟩
  · cases hc
  · simp [remaining, hs, hm, hr, hs']
  · cases hc
  · cases hc

theorem remaining_secret {t : Terminal ρ ω} {u : String} (h : t.await.1 = .ok (.secret u)) :
    t.await.2.remaining < t.remaining := by
  rcases await_movedTo h with hc | ⟨⟨_, hc⟩, _⟩ | ⟨_, hs | hs, hm, hr, hs'⟩ | ⟨hc, _⟩
  · cases hc
  · cases hc
  · simp only [remaining, hs, hm, hr, hs']
    omega
  · simp only [remaining, hs, hm, hr, hs']
    omega
  · cases hc

theorem remaining_confirm {t : Terminal ρ ω} (h : t.await.1 = .ok .confirm) :
    t.await.2.reject.remaining < t.remaining := by
  rcases await_movedTo h with hc | ⟨⟨_, hc⟩, _⟩ | ⟨⟨_, hc⟩, _⟩ | ⟨_, hs, hm, hr, hs'⟩
  · cases hc
  · cases hc
  · cases hc
  · by_cases hle : t.maxAttempts ≤ t.rejected + 1
    · simp only [remaining, reject, hs, hm, hr, hle, if_true]
      omega
    · simp only [remaining, reject, hs, hm, hr, hle, if_false]
      omega

end Bound

def surface [LineReader ρ] [SecretReader ρ] [TextWriter ω] : Surface (Terminal ρ ω) where
  present := present
  setEnabled _ t := t
  reject := reject
  await := await
  close := close
  remaining := remaining
  remaining_setEnabled _ _ := Nat.le_refl _
  remaining_username _ _ := remaining_username
  remaining_secret _ _ := remaining_secret
  remaining_confirm _ := remaining_confirm

def describe (t : Terminal ρ ω) : String :=
  Text.record "TerminalSurface"
    [("hide_secret", toString t.hideSecret), ("max_attempts", toString t.maxAttempts),
     ("rejected", toString t.rejected), ("step", t.step.name)]

end Terminal

end GitLogin
