import GitLogin.Proofs.Parallel
import GitLogin.Proofs.TypedLines
import Mathlib.Data.List.Forall2

/-!
What a terminal shows of the secrets that are typed on it. `ask_screen`: of each line no more than
whether it is empty.
-/

namespace GitLogin

inductive Alike : Except SurfaceFault Event → Except SurfaceFault Event → Prop
  | same (a : Except SurfaceFault Event) : Alike a a
  | secret {x y : String} : (x = "" ↔ y = "") → Alike (.ok (.secret x)) (.ok (.secret y))

/-- An event in which a secret is blotted out, unless it is empty. -/
def Event.hidden : Event → Event
  | .secret text => .secret (if text = "" then "" else Text.redacted)
  | e => e

def Call.hidden : Call → Call
  | .await answer => .await (answer.map Event.hidden)
  | c => c

theorem Alike.hidden_eq {a b : Except SurfaceFault Event} (h : Alike a b) :
    (Call.await a).hidden = (Call.await b).hidden := by
  cases h with
  | same => rfl
  | secret hempty => simp only [Call.hidden, Except.map, Event.hidden, hempty]

theorem Alike.eq {a b : Except SurfaceFault Event} (h : Alike a b)
    (hne : ∀ x, a ≠ .ok (.secret x)) : a = b := by
  cases h with
  | same => rfl
  | secret => exact absurd rfl (hne _)

theorem Alike.exists_secret {b : Except SurfaceFault Event} {x : String}
    (h : Alike (.ok (.secret x)) b) : ∃ y, b = .ok (.secret y) ∧ (x = "" ↔ y = "") := by
  cases h with
  | same => exact ⟨x, rfl, Iff.rfl⟩
  | secret hempty => exact ⟨_, rfl, hempty⟩

theorem Gate.feed_alike {x y : String} (h : x = "" ↔ y = "") (g : Gate) :
    g.feed x.length = g.feed y.length := by
  have hpos (s : String) : 0 < s.length ↔ s ≠ "" := by simp [Nat.pos_iff_ne_zero]
  have hlength : Gate.ofLength x.length = Gate.ofLength y.length := by
    simp only [ofLength, hpos, h, ne_eq]
  rw [feed, feed, hlength]

/-- Two surfaces that stay alike as long as they are told alike; `R` says which states are. -/
structure Surface.Veils {σ τ : Type} (S : Surface σ) (T : Surface τ) (R : σ → τ → Prop) :
    Prop where
  setEnabled : ∀ {b s t}, R s t → R (S.setEnabled b s) (T.setEnabled b t)
  reject : ∀ {s t}, R s t → R (S.reject s) (T.reject t)
  await : ∀ {s t}, R s t → Alike (S.await s).1 (T.await t).1 ∧ R (S.await s).2 (T.await t).2
  close : ∀ {s t}, R s t → R (S.close s) (T.close t)

structure Watched (ν σ : Type) where
  state : σ
  seen : List ν

namespace Watched

variable {ν σ : Type}

def start (s : σ) : Watched ν σ := ⟨s, []⟩

def see (view : σ → ν) (x : Watched ν σ) (s : σ) : Watched ν σ := ⟨s, x.seen ++ [view s]⟩

end Watched

namespace Surface

variable {σ τ ν : Type} {S : Surface σ} {T : Surface τ} {R : σ → τ → Prop}

def watched (S : Surface σ) (view : σ → ν) : Surface (Watched ν σ) where
  present l x := ((S.present l x.state).1, x.see view (S.present l x.state).2)
  setEnabled b x := x.see view (S.setEnabled b x.state)
  reject x := x.see view (S.reject x.state)
  await x := ((S.await x.state).1, x.see view (S.await x.state).2)
  close x := x.see view (S.close x.state)
  remaining x := S.remaining x.state
  remaining_setEnabled b x := S.remaining_setEnabled b x.state
  remaining_username x := S.remaining_username x.state
  remaining_secret x := S.remaining_secret x.state
  remaining_confirm x := S.remaining_confirm x.state

theorem watched_inStep (S : Surface σ) (view : σ → ν) :
    (S.watched view).InStep S Eq (fun x s => x.state = s) where
  present := by
    rintro l _ x _ rfl rfl
    exact ⟨rfl, rfl⟩
  setEnabled := by
    rintro b x _ rfl
    rfl
  reject := by
    rintro x _ rfl
    rfl
  await := by
    rintro x _ rfl
    exact ⟨rfl, rfl⟩
  close := by
    rintro x _ rfl
    rfl

def CallsAlike (R : σ → τ → Prop) (x : Recorded σ) (y : Recorded τ) : Prop :=
  R x.state y.state ∧ x.calls.map Call.hidden = y.calls.map Call.hidden

theorem CallsAlike.note {x : Recorded σ} {y : Recorded τ} (h : CallsAlike R x y) {c d : Call}
    (hcall : c.hidden = d.hidden) {s : σ} {t : τ} (hR : R s t) :
    CallsAlike R (x.note c s) (y.note d t) :=
  ⟨hR, by simp [Recorded.note, h.2, hcall]⟩

theorem Veils.recorded (h : S.Veils T R) : S.recorded.Veils T.recorded (CallsAlike R) where
  setEnabled hR := hR.note rfl (h.setEnabled hR.1)
  reject hR := hR.note rfl (h.reject hR.1)
  await hR := by
    obtain ⟨halike, hnext⟩ := h.await hR.1
    exact ⟨halike, hR.note halike.hidden_eq hnext⟩
  close hR := hR.note rfl (h.close hR.1)

def SeenAlike (R : σ → τ → Prop) (x : Watched ν σ) (y : Watched ν τ) : Prop :=
  R x.state y.state ∧ x.seen = y.seen

theorem SeenAlike.see {view : σ → ν} {view' : τ → ν} {x : Watched ν σ} {y : Watched ν τ}
    (h : SeenAlike R x y) {s : σ} {t : τ} (hR : R s t) (hsame : view s = view' t) :
    SeenAlike R (x.see view s) (y.see view' t) :=
  ⟨hR, by simp [Watched.see, h.2, hsame]⟩

theorem Veils.watched (h : S.Veils T R) {view : σ → ν} {view' : τ → ν}
    (hview : ∀ {s t}, R s t → view s = view' t) :
    (S.watched view).Veils (T.watched view') (SeenAlike R) where
  setEnabled hR := hR.see (h.setEnabled hR.1) (hview (h.setEnabled hR.1))
  reject hR := hR.see (h.reject hR.1) (hview (h.reject hR.1))
  await hR := by
    obtain ⟨halike, hnext⟩ := h.await hR.1
    exact ⟨halike, hR.see hnext (hview hnext)⟩
  close hR := hR.see (h.close hR.1) (hview (h.close hR.1))

end Surface

namespace Prompt

variable {σ τ ν : Type} {S : Surface σ} {T : Surface τ} {R : σ → τ → Prop} {r : Remote}
  {settings : Settings}

theorem showGate_veils (hS : S.Veils T R) (g : Gate × Bool) {s : σ} {t : τ} (hR : R s t) :
    R (showGate S g s) (showGate T g t) := by
  rw [showGate, showGate]
  split
  · exact hS.setEnabled hR
  · exact hR

theorem follow_veils (hS : S.Veils T R) {f f' : Fields} {g : Gate} {s : σ} {t : τ} (hR : R s t) :
    (follow S r settings f g s).1.isConfirmed = (follow T r settings f' g t).1.isConfirmed ∧
      R (follow S r settings f g s).2 (follow T r settings f' g t).2 := by
  -- the gate moves alike, so that a confirm is accepted in both prompts or in none, whatever their
  -- forms hold
  fun_induction follow S r settings f g s generalizing f' t with
  | case1 f g s e ha =>
    obtain ⟨halike, hR⟩ := hS.await hR
    have hb := (halike.eq (by simp [ha])).symm.trans ha
    rw [follow_of_error hb]
    exact ⟨rfl, hS.close hR⟩
  | case2 f g s ha =>
    obtain ⟨halike, hR⟩ := hS.await hR
    have hb := (halike.eq (by simp [ha])).symm.trans ha
    rw [follow_of_cancel hb]
    exact ⟨rfl, hS.close hR⟩
  | case3 f g s u ha ih =>
    obtain ⟨halike, hR⟩ := hS.await hR
    have hb := (halike.eq (by simp [ha])).symm.trans ha
    rw [follow_of_username hb]
    exact ih hR
  | case4 f g s x ha ih =>
    obtain ⟨halike, hR⟩ := hS.await hR
    obtain ⟨y, hb, hempty⟩ := (ha ▸ halike).exists_secret
    rw [follow_of_secret hb, ← Gate.feed_fst g, ← Gate.feed_alike hempty]
    exact ih (showGate_veils hS _ hR)
  | case5 f g s ha hopen =>
    obtain ⟨halike, hR⟩ := hS.await hR
    have hb := (halike.eq (by simp [ha])).symm.trans ha
    rw [follow_of_confirm hb, if_pos hopen]
    exact ⟨rfl, hS.close hR⟩
  | case6 f g s ha hshut ih =>
    obtain ⟨halike, hR⟩ := hS.await hR
    have hb := (halike.eq (by simp [ha])).symm.trans ha
    rw [follow_of_confirm hb, if_neg hshut]
    exact ih (hS.reject hR)

theorem run_veils (hS : S.Veils T R) {prior : Option Credential} {s : σ} {t : τ}
    (hp : (S.present (.of r prior settings) s).1 = (T.present (.of r prior settings) t).1)
    (hR : R (S.present (.of r prior settings) s).2 (T.present (.of r prior settings) t).2) :
    (run S r prior settings s).1.isConfirmed = (run T r prior settings t).1.isConfirmed ∧
      R (run S r prior settings s).2 (run T r prior settings t).2 := by
  cases hs : (S.present (.of r prior settings) s).1 with
  | error e =>
    rw [run_of_fault hs, run_of_fault (hp.symm.trans hs)]
    exact ⟨rfl, hS.close hR⟩
  | ok _ =>
    rw [run_of_presented hs, run_of_presented (hp.symm.trans hs)]
    exact follow_veils hS (hS.setEnabled hR)

theorem run_watched (S : Surface σ) (view : σ → ν) (r : Remote) (prior : Option Credential)
    (settings : Settings) (s : σ) :
    run S r prior settings s = ((run (S.watched view) r prior settings (.start s)).1,
      (run (S.watched view) r prior settings (.start s)).2.state) := by
  obtain ⟨ho, hs⟩ := run_inStep (S.watched_inStep view) r prior prior settings settings rfl rfl
    (s := .start s) rfl
  exact Prod.ext ho.symm hs.symm

end Prompt

namespace Source

def SameBlank (a b : Option String) : Prop :=
  ∃ x y, a = some x ∧ b = some y ∧ (x = "" ↔ y = "")

structure SameBlanks (i j : Source) : Prop where
  broken : i.broken = j.broken
  typed : List.Forall₂ SameBlank i.typed j.typed

inductive ReadAlike (i j : Source) : Except IoFault (Option String) × Source →
    Except IoFault (Option String) × Source → Prop
  | ended {e : Except IoFault (Option String)} : (∀ raw, e ≠ .ok (some raw)) →
      ReadAlike i j (e, i) (e, j)
  | line {raw raw' : String} {i' j' : Source} : SameBlanks i' j' →
      (Text.withoutEnding raw = "" ↔ Text.withoutEnding raw' = "") →
      (i.typed.head? = j.typed.head? → Text.withoutEnding raw = Text.withoutEnding raw') →
      ReadAlike i j (.ok (some raw), i') (.ok (some raw'), j')

theorem SameBlanks.readLine {i j : Source} (h : i.SameBlanks j) :
    ReadAlike i j (LineReader.readLine i) (LineReader.readLine j) := by
  obtain ⟨lines, broken⟩ := i
  obtain ⟨lines', broken'⟩ := j
  obtain ⟨rfl, htyped⟩ := h
  change ReadAlike _ _ (next _) (next _)
  cases lines with
  | nil =>
    cases lines' with
    | nil => cases broken <;> exact .ended (by simp)
    | cons => cases htyped
  | cons line lines =>
    cases lines' with
    | nil => cases htyped
    | cons line' lines' =>
      obtain ⟨⟨x, y, hx, hy, hempty⟩, htail⟩ := List.forall₂_cons.1 htyped
      obtain ⟨raw, rfl, rfl⟩ := Option.map_eq_some_iff.1 hx
      obtain ⟨raw', rfl, rfl⟩ := Option.map_eq_some_iff.1 hy
      exact .line ⟨rfl, htail⟩ hempty (by simp [Source.typed])

section Texts

variable {text text' : String} (broken : Bool)
  (hempty : (Text.lines text).map String.isEmpty = (Text.lines text').map String.isEmpty)
  (hends : text.toList.getLast? = some '\n' ↔ text'.toList.getLast? = some '\n')
include hempty hends

theorem sameBlanks_ofBytes : (ofBytes (Text.Utf8.encode text) broken).SameBlanks
    (ofBytes (Text.Utf8.encode text') broken) := by
  have hsame {ls ls' : List String} (h : ls.map String.isEmpty = ls'.map String.isEmpty) :
      List.Forall₂ SameBlank (ls.map some) (ls'.map some) := by
    rw [← List.forall₂_eq_eq_eq, List.forall₂_map_left_iff, List.forall₂_map_right_iff] at h
    rw [List.forall₂_map_left_iff, List.forall₂_map_right_iff]
    refine h.imp fun x y hxy => ⟨x, y, rfl, rfl, ?_⟩
    rw [← String.isEmpty_iff, ← String.isEmpty_iff, hxy]
  refine ⟨rfl, ?_⟩
  simp only [typed_ofBytes, typedLines_encode, ne_eq, hends]
  split
  · exact hsame (by rw [List.map_dropLast, hempty, List.map_dropLast])
  · exact hsame hempty

theorem head?_typed_ofBytes (hhead : (Text.lines text).head? = (Text.lines text').head?) :
    (ofBytes (Text.Utf8.encode text) broken).typed.head? =
      (ofBytes (Text.Utf8.encode text') broken).typed.head? := by
  have hlength : (Text.lines text).length = (Text.lines text').length := by
    simpa using congrArg List.length hempty
  simp only [typed_ofBytes, typedLines_encode, ne_eq, hends, List.head?_map]
  split
  · rw [List.head?_dropLast, List.head?_dropLast, hlength, hhead]
  · rw [hhead]

end Texts

end Source

namespace Terminal

variable {ω : Type}

def shown {ρ : Type} (t : Terminal ρ ω) : Terminal Unit ω := { t with input := () }

/-- Two terminals that differ in what is typed on them, after the username at most in what the lines
are that are not empty. -/
structure Veiled (t t' : Terminal Source ω) : Prop where
  shown : t.shown = t'.shown
  hideSecret : t.hideSecret = false
  input : t.input.SameBlanks t'.input
  username : t.step = .username → t.input.typed.head? = t'.input.typed.head?

variable {t t' : Terminal Source ω}

theorem Veiled.exists_over (h : Veiled t t') : ∃ j, t' = { t with input := j } := by
  obtain ⟨i, output, hide, limit, rejected, step, layout⟩ := t
  obtain ⟨j, output', hide', limit', rejected', step', layout'⟩ := t'
  have hshown := h.shown
  simp only [Terminal.shown, Terminal.mk.injEq, true_and] at hshown
  obtain ⟨rfl, rfl, rfl, rfl, rfl, rfl⟩ := hshown
  exact ⟨j, rfl⟩

theorem Veiled.output (h : Veiled t t') : t.output = t'.output := by
  obtain ⟨j, rfl⟩ := h.exists_over
  rfl

section Operations

variable [TextWriter ω]

theorem Veiled.reject (h : Veiled t t') : Veiled t.reject t'.reject := by
  have hstep : t.reject.step ≠ .username := by
    rw [step_reject]
    split <;> nofun
  obtain ⟨j, rfl⟩ := h.exists_over
  exact ⟨rfl, h.hideSecret, h.input, fun hu => absurd hu hstep⟩

theorem Veiled.close (h : Veiled t t') : Veiled t.close t'.close := by
  obtain ⟨j, rfl⟩ := h.exists_over
  exact ⟨rfl, h.hideSecret, h.input, h.username⟩

theorem present_veiled {i j : Source} (hinput : i.SameBlanks j) (l : Layout)
    (husername : l.usernameField.isSome → i.typed.head? = j.typed.head?) (output : ω) (n : Nat) :
    (present l (new i output n)).1 = (present l (new j output n)).1 ∧
      Veiled (present l (new i output n)).2 (present l (new j output n)).2 := by
  simp only [present, send, new]
  generalize TextWriter.send (greeting l) output = sent
  obtain ⟨_ | _, output⟩ := sent
  · exact ⟨rfl, rfl, rfl, hinput, by simp⟩
  · refine ⟨rfl, rfl, rfl, hinput, fun hstep => husername ?_⟩
    cases hf : l.usernameField with
    | none => simp [Layout.focus, hf] at hstep
    | some => rfl

theorem Veiled.askUsername (h : Veiled t t') (hstep : t.step = .username) (f : UsernameField) :
    Alike (t.askUsername f).1 (t'.askUsername f).1 ∧
      Veiled (t.askUsername f).2 (t'.askUsername f).2 := by
  obtain ⟨j, rfl⟩ := h.exists_over
  obtain ⟨i, output, hide, limit, rejected, step, layout⟩ := t
  simp only [Terminal.askUsername, send]
  generalize TextWriter.send (usernameQuestion f) output = sent
  obtain ⟨_ | _, output⟩ := sent
  · exact ⟨.same _, rfl, h.hideSecret, h.input, h.username⟩
  · have hread := h.input.readLine
    simp only [readLine] at hread ⊢
    generalize LineReader.readLine i = line, LineReader.readLine j = line' at hread
    cases hread with
    | @ended e hend =>
      obtain _ | _ | raw := e
      · exact ⟨.same _, rfl, h.hideSecret, h.input, h.username⟩
      · exact ⟨.same _, rfl, h.hideSecret, h.input, h.username⟩
      · exact absurd rfl (hend raw)
    | line hnext _ hhead =>
      simp only [Option.map_some, Text.chomp_eq, hhead (h.username hstep)]
      exact ⟨.same _, rfl, h.hideSecret, hnext, by simp⟩

variable [SecretReader Source]

theorem Veiled.askSecret (h : Veiled t t') (label : String) :
    Alike (t.askSecret label).1 (t'.askSecret label).1 ∧
      Veiled (t.askSecret label).2 (t'.askSecret label).2 := by
  obtain ⟨j, rfl⟩ := h.exists_over
  obtain ⟨i, output, hide, limit, rejected, step, layout⟩ := t
  obtain rfl : hide = false := h.hideSecret
  simp only [Terminal.askSecret, send]
  generalize TextWriter.send (label ++ ": ") output = sent
  obtain ⟨_ | _, output⟩ := sent
  · exact ⟨.same _, rfl, rfl, h.input, h.username⟩
  · have hread := h.input.readLine
    simp only [readSecret, readLine] at hread ⊢
    generalize LineReader.readLine i = line, LineReader.readLine j = line' at hread
    cases hread with
    | @ended e hend =>
      obtain _ | _ | raw := e
      · exact ⟨.same _, rfl, rfl, h.input, h.username⟩
      · exact ⟨.same _, rfl, rfl, h.input, h.username⟩
      · exact absurd rfl (hend raw)
    | line hnext hempty _ =>
      simp only [Option.map_some, Text.chomp_eq]
      exact ⟨.secret hempty, rfl, rfl, hnext, by simp⟩

theorem Veiled.await (h : Veiled t t') :
    Alike t.await.1 t'.await.1 ∧ Veiled t.await.2 t'.await.2 := by
  have hsame : t'.layout = t.layout ∧ t'.step = t.step := by
    obtain ⟨j, rfl⟩ := h.exists_over
    exact ⟨rfl, rfl⟩
  rw [Terminal.await, Terminal.await, hsame.1, hsame.2]
  split
  · exact ⟨.same _, h⟩
  · split
    · next hstep _ => exact h.askUsername hstep _
    · exact h.askSecret _
    · exact h.askSecret _
    · obtain ⟨j, rfl⟩ := h.exists_over
      exact ⟨.same _, rfl, h.hideSecret, h.input, by simp⟩
    · exact ⟨.same _, h⟩

theorem surface_veils : (surface : Surface (Terminal Source ω)).Veils surface Veiled where
  setEnabled h := h
  reject := Veiled.reject
  await := Veiled.await
  close := Veiled.close

end Operations

end Terminal

/-- Two prompts over inputs of text that have their empty lines in the same places cannot be told
apart on the screen, whatever the writer does, if the username is the same line where it is asked
for: after each call the terminals show the same, and the calls are the same but for the secrets,
of which they tell whether they are empty. -/
theorem ask_screen {ω : Type} [SecretReader Source] [TextWriter ω] (r : Remote)
    (prior : Option Credential) (settings : Settings) (output : ω) (broken : Bool)
    {text text' : String}
    (hempty : (Text.lines text).map String.isEmpty = (Text.lines text').map String.isEmpty)
    (hends : text.toList.getLast? = some '\n' ↔ text'.toList.getLast? = some '\n')
    (husername : (Layout.of r prior settings).usernameField.isSome →
      (Text.lines text).head? = (Text.lines text').head?) :
    let start (text : String) : Terminal Source ω :=
      .new (.ofBytes (Text.Utf8.encode text) broken) output settings.maxAttempts
    let watched := (Terminal.surface (ρ := Source) (ω := ω)).recorded.watched (·.state.shown)
    ∃ o o' x x',
      Prompt.ask watched .interactive r prior settings (.start (.start (start text))) =
        .ok (o, x) ∧
      Prompt.ask watched .interactive r prior settings (.start (.start (start text'))) =
        .ok (o', x') ∧
      Prompt.ask Terminal.surface .interactive r prior settings (start text) =
        .ok (o, x.state.state) ∧
      Prompt.ask Terminal.surface .interactive r prior settings (start text') =
        .ok (o', x'.state.state) ∧
      x.state.state.output = x'.state.state.output ∧
      x.seen = x'.seen ∧
      x.state.calls.map Call.hidden = x'.state.calls.map Call.hidden ∧
      o.isConfirmed = o'.isConfirmed := by
  intro start watched
  have hinputs := Source.sameBlanks_ofBytes broken hempty hends
  obtain ⟨hpresent, hveiled⟩ := Terminal.present_veiled hinputs (.of r prior settings)
    (fun hfield => Source.head?_typed_ofBytes broken hempty hends (husername hfield)) output
    settings.maxAttempts
  have hveils : watched.Veils watched (Surface.SeenAlike (Surface.CallsAlike Terminal.Veiled)) :=
    Terminal.surface_veils.recorded.watched fun h => h.1.shown
  have hcall : Call.present (.of r prior settings) (fault? (Terminal.present _ (start text)).1) =
      .present (.of r prior settings) (fault? (Terminal.present _ (start text')).1) :=
    congrArg (fun a => Call.present _ (fault? a)) hpresent
  let result (text : String) := Prompt.run watched r prior settings (.start (.start (start text)))
  obtain ⟨ho, ⟨hend, hcalls⟩, hseen⟩ :
      (result text).1.isConfirmed = (result text').1.isConfirmed ∧
        Surface.SeenAlike (Surface.CallsAlike Terminal.Veiled) (result text).2 (result text').2 :=
    Prompt.run_veils hveils hpresent ⟨⟨hveiled, congrArg (fun c => [Call.hidden c]) hcall⟩,
      congrArg (fun v => [v]) hveiled.shown⟩
  have hrun (t : Terminal Source ω) : Prompt.run Terminal.surface r prior settings t =
      ((Prompt.run watched r prior settings (.start (.start t))).1,
        (Prompt.run watched r prior settings (.start (.start t))).2.state.state) := by
    rw [Prompt.run_recorded, Prompt.run_watched _ (·.state.shown)]
  refine ⟨(result text).1, (result text').1, (result text).2, (result text').2,
    Prompt.ask_interactive .., Prompt.ask_interactive .., ?_, ?_,
    hend.output, hseen, hcalls, ho⟩
  · rw [Prompt.ask_interactive, hrun]
  · rw [Prompt.ask_interactive, hrun]

theorem ask_screen_lengths :
    let r : Remote := { uri := "https://example.com", host := some "example.com" }
    let start (text : String) : Terminal Source Sink :=
      .new (.ofBytes (Text.Utf8.encode text) true) { limit := some 80 } 3
    ∃ o o' t t',
      Prompt.ask Terminal.surface .interactive r none {} (start "bob\n\nhunter2\n") = .ok (o, t) ∧
      Prompt.ask Terminal.surface .interactive r none {} (start "bob\n\n日本\r\n") = .ok (o', t') ∧
      t.output = t'.output ∧ o.isConfirmed = o'.isConfirmed := by
  -- secrets of different lengths after an empty line, on a screen that takes eighty bytes
  intro r start
  have hempty : (Text.lines "bob\n\nhunter2\n").map String.isEmpty =
      (Text.lines "bob\n\n日本\r\n").map String.isEmpty := by decide
  have hname : (Text.lines "bob\n\nhunter2\n").head? = (Text.lines "bob\n\n日本\r\n").head? := by
    decide
  obtain ⟨o, o', x, x', -, -, hask, hask', houtput, -, -, ho⟩ :=
    ask_screen r none {} ({ limit := some 80 } : Sink) true hempty (by decide) fun _ => hname
  exact ⟨o, o', _, _, hask, hask', houtput, ho⟩

end GitLogin
