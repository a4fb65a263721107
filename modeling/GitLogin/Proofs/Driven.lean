import GitLogin.Proofs.Attempts

namespace GitLogin

inductive Command
  | present (l : Layout)
  | setEnabled (b : Bool)
  | reject
  | await
  | close

namespace Surface

variable {σ : Type}

def obey (S : Surface σ) (s : σ) : Command → σ
  | .present l => (S.present l s).2
  | .setEnabled b => S.setEnabled b s
  | .reject => S.reject s
  | .await => (S.await s).2
  | .close => S.close s

def drive (S : Surface σ) (s : σ) (cs : List Command) : σ := cs.foldl S.obey s

def call (S : Surface σ) (s : σ) : Command → Call
  | .present l => .present l (fault? (S.present l s).1)
  | .setEnabled b => .setEnabled b
  | .reject => .reject
  | .await => .await (S.await s).1
  | .close => .close

theorem obey_recorded (S : Surface σ) (x : Recorded σ) (c : Command) :
    S.recorded.obey x c = x.note (S.call x.state c) (S.obey x.state c) := by
  cases c <;> rfl

end Surface

def Call.shown? : Call → Option Layout
  | .present l none => some l
  | .present _ (some _) | .setEnabled _ | .reject | .await _ | .close => none

def Call.answer? : Call → Option (Except SurfaceFault Event)
  | .await a => some a
  | .present .. | .setEnabled _ | .reject | .close => none

namespace Trace

def shown? (t : Trace) : Option Layout := (t.filterMap Call.shown?).getLast?

def sinceShown (t : Trace) : Trace := (t.reverse.takeWhile (·.shown?.isNone)).reverse

def lastAnswer? (t : Trace) : Option (Except SurfaceFault Event) :=
  (t.filterMap Call.answer?).getLast?

/-- A rejection has reached the limit, and no form was presented after it. -/
def GivenUp (m : Nat) (t : Trace) : Prop :=
  ∃ before after : Trace, t = before ++ .reject :: after ∧
    m ≤ before.countP Call.isReject + 1 ∧ ∀ c ∈ after, c.shown? = none

/-- What an answer may be after these calls, for a limit of `m` rejections. -/
structure Permits (m : Nat) (t : Trace) (a : Except SurfaceFault Event) : Prop where
  unshown : t.shown? = none → a = .error .notShown
  username : ∀ u, a = .ok (.username u) →
    (∃ l f, t.shown? = some l ∧ l.usernameField = some f) ∧ ∀ e ∈ t.sinceShown.heard, e = .cancel
  confirm : a = .ok .confirm → ∃ x, t.lastAnswer? = some (.ok (.secret x))
  givenUp : t.shown? ≠ none → t.GivenUp m → a = .ok .cancel

def Orderly (m : Nat) (t : Trace) : Prop :=
  ∀ (before : Trace) a after, t = before ++ .await a :: after → before.Permits m a

def usernames (t : Trace) : List String := t.sinceShown.heard.filterMap Event.username?

@[simp] theorem shown?_append (t : Trace) (c : Call) :
    shown? (t ++ [c]) = c.shown?.or t.shown? := by
  rw [shown?, List.filterMap_append, List.getLast?_append]
  cases h : c.shown? <;> simp [h, shown?]

@[simp] theorem lastAnswer?_append (t : Trace) (c : Call) :
    lastAnswer? (t ++ [c]) = c.answer?.or t.lastAnswer? := by
  rw [lastAnswer?, List.filterMap_append, List.getLast?_append]
  cases h : c.answer? <;> simp [h, lastAnswer?]

theorem sinceShown_present (t : Trace) (l : Layout) : sinceShown (t ++ [.present l none]) = [] := by
  simp [sinceShown, Call.shown?]

theorem sinceShown_append {c : Call} (t : Trace) (hc : c.shown? = none) :
    sinceShown (t ++ [c]) = t.sinceShown ++ [c] := by
  simp [sinceShown, hc]

theorem usernames_append {c : Call} (t : Trace) (hc : c.shown? = none) :
    usernames (t ++ [c]) = t.usernames ++ (c.event?.bind Event.username?).toList := by
  rw [usernames, sinceShown_append t hc, heard_append, List.filterMap_append]
  cases h : c.event? with
  | none => rfl
  | some e => cases e <;> rfl

theorem orderly_append {m : Nat} {t : Trace} {c : Call} (ht : t.Orderly m)
    (hc : ∀ a, c = .await a → t.Permits m a) : Orderly m (t ++ [c]) := by
  intro before a after heq
  rcases List.eq_nil_or_concat after with rfl | ⟨after, d, rfl⟩
  · obtain ⟨rfl, rfl⟩ := List.append_singleton_inj.1 heq
    exact hc a rfl
  · rw [List.concat_eq_append, ← List.cons_append, ← List.append_assoc] at heq
    exact ht before a after (List.append_singleton_inj.1 heq).1

theorem givenUp_append {m : Nat} {t : Trace} {c : Call} : GivenUp m (t ++ [c]) ↔
    c = .reject ∧ m ≤ t.countP Call.isReject + 1 ∨ c.shown? = none ∧ t.GivenUp m := by
  constructor
  · rintro ⟨before, after, heq, hle, hafter⟩
    rcases List.eq_nil_or_concat after with rfl | ⟨after, d, rfl⟩
    · obtain ⟨rfl, rfl⟩ := List.append_singleton_inj.1 heq
      exact .inl ⟨rfl, hle⟩
    · rw [List.concat_eq_append] at heq hafter
      rw [← List.cons_append, ← List.append_assoc] at heq
      obtain ⟨rfl, rfl⟩ := List.append_singleton_inj.1 heq
      refine .inr ⟨hafter c (by simp), before, after, rfl, hle, ?_⟩
      exact fun d hd => hafter d (List.mem_append_left _ hd)
  · rintro (⟨rfl, hle⟩ | ⟨hc, before, after, rfl, hle, hafter⟩)
    · exact ⟨t, [], rfl, hle, by simp⟩
    · refine ⟨before, after ++ [c], by simp, hle, ?_⟩
      intro d hd
      rcases List.mem_append.1 hd with hd | hd
      · exact hafter d hd
      · rwa [List.mem_singleton.1 hd]

end Trace

def Step.after (step : Step) : Except SurfaceFault Event → Step
  | .ok (.username _) | .ok .confirm => .secret
  | .ok (.secret _) => .confirm
  | .ok .cancel | .error _ => step

namespace Terminal

variable {ρ ω : Type}

theorem readLine_of_readSecret [LineReader ρ] [SecretReader ρ]
    {t t' : Terminal ρ ω} {secret : String} (h : t.readSecret = (.ok (some secret), t')) :
    ∃ line, LineReader.readLine t.input = (.ok (some line), t'.input) := by
  rw [readSecret] at h
  split at h
  · split at h
    · cases h
    · next secret input heq =>
      cases h
      obtain ⟨line, hline⟩ := SecretReader.exists_line t.input secret (congrArg Prod.fst heq)
      have hinput := SecretReader.snd_readSecret t.input
      rw [heq] at hinput
      exact ⟨line, Prod.ext hline hinput.symm⟩
  · obtain ⟨line, input, heq, -, rfl⟩ := readLine_eq h
    exact ⟨line, heq⟩

section Operations

variable [TextWriter ω]

theorem present_cases (l : Layout) (t : Terminal ρ ω) :
    (∃ e output, t.present l = (.error e, { t with output })) ∨
    ∃ output step, t.present l = (.ok (), { t with output, step, layout := some l }) ∧
      (step = .username ∧ l.usernameField.isSome ∨ step = .secret) := by
  obtain ⟨sent, output, hsend⟩ := send_eq (greeting l) t
  rw [present, hsend]
  cases sent with
  | error e => exact .inl ⟨e, output, rfl⟩
  | ok =>
    right
    simp only [Layout.focus]
    by_cases hf : l.usernameField.isSome
    · rw [if_pos hf]
      exact ⟨output, .username, rfl, .inl ⟨rfl, hf⟩⟩
    · rw [if_neg hf]
      exact ⟨output, .secret, rfl, .inr rfl⟩

variable [LineReader ρ]

theorem step_askUsername (f : UsernameField) (t : Terminal ρ ω) :
    (t.askUsername f).2.step = t.step.after (t.askUsername f).1 := by
  obtain ⟨sent, output, hsend⟩ := send_eq (usernameQuestion f) t
  rw [askUsername, hsend]
  cases sent with
  | error e => rfl
  | ok =>
    obtain ⟨line, hline⟩ := readLine_skip { t with output }
    simp only [hline]
    obtain _ | _ | _ := line <;> rfl

theorem readLine_of_askUsername {t : Terminal ρ ω} {f : UsernameField} {e : Event}
    (ha : (t.askUsername f).1 = .ok e) (hne : e ≠ .cancel) :
    ∃ line, LineReader.readLine t.input = (.ok (some line), (t.askUsername f).2.input) := by
  obtain ⟨sent, output, hsend⟩ := send_eq (usernameQuestion f) t
  rw [askUsername, hsend] at ha ⊢
  cases sent with
  | error => cases ha
  | ok =>
    simp only at ha ⊢
    split at ha
    · cases ha
    · cases ha
      contradiction
    · next heq =>
      obtain ⟨line, input, hline, -, rfl⟩ := readLine_eq heq
      exact ⟨line, hline⟩

variable [SecretReader ρ]

theorem step_askSecret (label : String) (t : Terminal ρ ω) :
    (t.askSecret label).2.step = t.step.after (t.askSecret label).1 := by
  obtain ⟨sent, output, hsend⟩ := send_eq (label ++ ": ") t
  rw [askSecret, hsend]
  cases sent with
  | error e => rfl
  | ok =>
    obtain ⟨line, hline⟩ := readSecret_skip { t with output }
    simp only [hline]
    obtain _ | _ | _ := line <;> rfl

theorem step_await (t : Terminal ρ ω) : t.await.2.step = t.step.after t.await.1 := by
  rw [await]
  split
  · rfl
  · split
    · exact step_askUsername ..
    · exact step_askSecret ..
    · exact step_askSecret ..
    · rfl
    · rfl

theorem readLine_of_askSecret {t : Terminal ρ ω} {label : String} {e : Event}
    (ha : (t.askSecret label).1 = .ok e) (hne : e ≠ .cancel) :
    ∃ line, LineReader.readLine t.input = (.ok (some line), (t.askSecret label).2.input) := by
  obtain ⟨sent, output, hsend⟩ := send_eq (label ++ ": ") t
  rw [askSecret, hsend] at ha ⊢
  cases sent with
  | error => cases ha
  | ok =>
    simp only at ha ⊢
    split at ha
    · cases ha
    · cases ha
      contradiction
    · next t' heq =>
      obtain ⟨line, hline⟩ := readLine_of_readSecret heq
      exact ⟨line, hline⟩

theorem readLine_of_edit {t : Terminal ρ ω} {e : Event} (ha : t.await.1 = .ok e)
    (hcancel : e ≠ .cancel) (hconfirm : e ≠ .confirm) :
    ∃ line, LineReader.readLine t.input = (.ok (some line), t.await.2.input) := by
  rw [await] at ha ⊢
  split at ha
  · cases ha
  · split at ha
    · exact readLine_of_askUsername ha hcancel
    · exact readLine_of_askSecret ha hcancel
    · exact readLine_of_askSecret ha hcancel
    · cases ha
      contradiction
    · cases ha
      contradiction

theorem input_of_confirm {t : Terminal ρ ω} (ha : t.await.1 = .ok .confirm) :
    t.await.2.input = t.input := by
  obtain ⟨a, output, step, k, hk, heq⟩ := await_skip t
  rw [(movedTo_of_confirm ha).1, Step.lines, Nat.le_zero] at hk
  rw [heq, hk]
  rfl

theorem await_unshown {t : Terminal ρ ω} (hl : t.layout = none) :
    t.await = (.error .notShown, t) := by
  simp only [await, hl]

theorem await_cancelled {t : Terminal ρ ω} {l : Layout} (hl : t.layout = some l)
    (hstep : t.step = .cancel) : t.await = (.ok .cancel, t) := by
  simp only [await, hl, hstep]

theorem await_confirmed {t : Terminal ρ ω} {l : Layout} (hl : t.layout = some l)
    (hstep : t.step = .confirm) : t.await.1 = .ok .confirm := by
  simp only [await, hl, hstep]

theorem layout_await (t : Terminal ρ ω) : t.await.2.layout = t.layout := by
  obtain ⟨a, output, step, k, -, heq⟩ := await_skip t
  rw [heq]

theorem maxAttempts_await (t : Terminal ρ ω) : t.await.2.maxAttempts = t.maxAttempts := by
  obtain ⟨a, output, step, k, -, heq⟩ := await_skip t
  rw [heq]

end Operations

/-- A terminal after the calls of a trace, for a limit of `m` rejections: all of its state but what
it reads and writes is told by the trace. -/
structure Follows (m : Nat) (tr : Trace) (t : Terminal ρ ω) : Prop where
  layout : t.layout = tr.shown?
  maxAttempts : t.maxAttempts = m
  rejected : t.rejected = tr.countP Call.isReject
  username : t.step = .username →
    (∃ l f, tr.shown? = some l ∧ l.usernameField = some f) ∧ ∀ e ∈ tr.sinceShown.heard, e = .cancel
  confirm : t.step = .confirm →
    tr.shown? ≠ none ∧ ∃ x, tr.lastAnswer? = some (.ok (.secret x))
  givenUp : t.step = .cancel ↔ tr.GivenUp m
  once : tr.usernames.length ≤ 1
  orderly : tr.Orderly m

variable {m : Nat} {tr : Trace} {t : Terminal ρ ω}

theorem follows_new (input : ρ) (output : ω) (n : Nat) (hideSecret : Bool) :
    Follows (max n 1) [] (new input output n hideSecret) where
  layout := rfl
  maxAttempts := rfl
  rejected := rfl
  username := nofun
  confirm := nofun
  givenUp := by simp [new, Trace.GivenUp]
  once := Nat.zero_le 1
  orderly := by simp [Trace.Orderly]

theorem Follows.idle {c : Call} {t' : Terminal ρ ω} (h : Follows m tr t) (hshown : c.shown? = none)
    (hanswer : c.answer? = none) (hreject : c.isReject = false) (hlayout : t'.layout = t.layout)
    (hmax : t'.maxAttempts = t.maxAttempts) (hrejected : t'.rejected = t.rejected)
    (hstep : t'.step = t.step) : Follows m (tr ++ [c]) t' := by
  have hevent : c.event? = none := by cases c <;> simp_all [Call.answer?]
  have hne : c ≠ .reject := by
    rintro rfl
    cases hreject
  constructor
  · simp [hlayout, h.layout, hshown]
  · rw [hmax, h.maxAttempts]
  · simp [hrejected, h.rejected]
  · rw [hstep, Trace.sinceShown_append tr hshown, Trace.heard_append, hevent]
    simpa [hshown] using h.username
  · rw [hstep]
    simpa [hshown, hanswer] using h.confirm
  · rw [hstep, Trace.givenUp_append, h.givenUp]
    simp [hne, hshown]
  · rw [Trace.usernames_append tr hshown, hevent]
    simpa using h.once
  · refine Trace.orderly_append h.orderly ?_
    rintro a rfl
    cases hanswer

variable [TextWriter ω]

theorem Follows.present (h : Follows m tr t) (l : Layout) :
    Follows m (tr ++ [.present l (fault? (t.present l).1)]) (t.present l).2 := by
  rcases present_cases l t with ⟨e, output, heq⟩ | ⟨output, step, heq, hstep⟩
  · rw [heq]
    exact h.idle rfl rfl rfl rfl rfl rfl rfl
  · rw [heq]
    constructor
    · simp [fault?, Call.shown?]
    · exact h.maxAttempts
    · simp [h.rejected]
    · rintro rfl
      obtain ⟨-, hf⟩ := hstep.resolve_right (by simp)
      obtain ⟨f, hf⟩ := Option.isSome_iff_exists.1 hf
      refine ⟨⟨l, f, by simp [fault?, Call.shown?], hf⟩, ?_⟩
      simp [fault?, Trace.sinceShown_present, Trace.heard]
    · rintro rfl
      simp at hstep
    · rw [Trace.givenUp_append]
      rcases hstep with ⟨rfl, -⟩ | rfl <;> simp [fault?, Call.shown?]
    · simp [fault?, Trace.usernames, Trace.sinceShown_present, Trace.heard]
    · exact Trace.orderly_append h.orderly (by simp)

theorem Follows.reject (h : Follows m tr t) : Follows m (tr ++ [.reject]) t.reject := by
  have hstep := step_reject t
  rw [h.maxAttempts, h.rejected] at hstep
  constructor
  · exact h.layout.trans (by simp [Call.shown?])
  · exact h.maxAttempts
  · simp [h.rejected]
  · rw [hstep]
    split <;> nofun
  · rw [hstep]
    split <;> nofun
  · rw [hstep, Trace.givenUp_append]
    split
    · next hle => simp [hle]
    · next hle =>
      -- a trace that was given up has as many rejections as the limit
      simp only [reduceCtorEq, false_iff, not_or, not_and]
      refine ⟨fun _ => hle, fun _ hgiven => hle ?_⟩
      obtain ⟨before, after, rfl, hm, -⟩ := hgiven
      rw [List.countP_append, List.countP_cons]
      omega
  · rw [Trace.usernames_append tr rfl]
    simpa using h.once
  · exact Trace.orderly_append h.orderly nofun

variable [LineReader ρ] [SecretReader ρ]

theorem step_await_eq_cancel (t : Terminal ρ ω) : t.await.2.step = .cancel ↔ t.step = .cancel := by
  rw [step_await]
  cases ha : t.await.1 with
  | error e => rfl
  | ok e =>
    cases e with
    | cancel => rfl
    | username u => simp [Step.after, (movedTo_of_username ha).1]
    | secret x =>
      rcases (movedTo_of_secret ha).1 with hstep | hstep <;> simp [Step.after, hstep]
    | confirm => simp [Step.after, (movedTo_of_confirm ha).1]

theorem Follows.permits (h : Follows m tr t) : tr.Permits m t.await.1 where
  unshown hnone := by rw [await_unshown (h.layout.trans hnone)]
  username _ ha := h.username (movedTo_of_username ha).1
  confirm ha := (h.confirm (movedTo_of_confirm ha).1).2
  givenUp hshown hgiven := by
    obtain ⟨l, hl⟩ := Option.ne_none_iff_exists'.1 hshown
    rw [await_cancelled (h.layout.trans hl) (h.givenUp.2 hgiven)]

theorem Follows.shown_of_answer {e : Event} (h : Follows m tr t) (ha : t.await.1 = .ok e) :
    tr.shown? ≠ none := by
  intro hnone
  rw [await_unshown (h.layout.trans hnone)] at ha
  cases ha

theorem Follows.await (h : Follows m tr t) :
    Follows m (tr ++ [.await t.await.1]) t.await.2 where
  layout := by simp [layout_await, h.layout, Call.shown?]
  maxAttempts := by rw [maxAttempts_await, h.maxAttempts]
  rejected := by simp [h.rejected]
  username := by
    rw [step_await, Trace.sinceShown_append tr rfl, Trace.heard_append]
    cases ha : t.await.1 with
    | error e => simpa [Step.after, Call.shown?] using h.username
    | ok e =>
      cases e with
      | cancel =>
        intro hstep
        obtain ⟨hf, hcancel⟩ := h.username hstep
        refine ⟨by simpa [Call.shown?] using hf, ?_⟩
        intro e he
        rcases List.mem_append.1 he with he | he
        · exact hcancel e he
        · exact List.mem_singleton.1 he
      | _ => nofun
  confirm := by
    rw [step_await]
    cases ha : t.await.1 with
    | error e =>
      intro hstep
      obtain ⟨l, hl⟩ := Option.ne_none_iff_exists'.1 (h.confirm hstep).1
      rw [await_confirmed (h.layout.trans hl) hstep] at ha
      cases ha
    | ok e =>
      cases e with
      | cancel =>
        intro hstep
        obtain ⟨l, hl⟩ := Option.ne_none_iff_exists'.1 (h.confirm hstep).1
        rw [await_confirmed (h.layout.trans hl) hstep] at ha
        cases ha
      | secret x =>
        intro _
        have hshown := h.shown_of_answer ha
        exact ⟨by simpa [Call.shown?] using hshown, x, by simp [Call.answer?]⟩
      | _ => nofun
  givenUp := by
    rw [step_await_eq_cancel, Trace.givenUp_append, h.givenUp]
    simp [Call.shown?]
  once := by
    rw [Trace.usernames_append tr rfl]
    cases ha : t.await.1 with
    | error e => simpa using h.once
    | ok e =>
      cases e with
      | username u =>
        have hnone : tr.usernames = [] := by
          apply List.filterMap_eq_nil_iff.2
          intro e he
          rw [(h.username (movedTo_of_username ha).1).2 e he]
          rfl
        simp [hnone]
      | _ => simpa using h.once
  orderly := by
    refine Trace.orderly_append h.orderly ?_
    rintro a ha
    cases ha
    exact h.permits

theorem Follows.obey (h : Follows m tr t) (c : Command) :
    Follows m (tr ++ [surface.call t c]) (surface.obey t c) := by
  cases c with
  | present l => exact h.present l
  | setEnabled b => exact h.idle rfl rfl rfl rfl rfl rfl rfl
  | reject => exact h.reject
  | await => exact h.await
  | close => exact h.idle rfl rfl rfl rfl rfl rfl rfl

theorem follows_drive {x : Recorded (Terminal ρ ω)} (h : Follows m x.calls x.state)
    (cs : List Command) :
    Follows m (surface.recorded.drive x cs).calls (surface.recorded.drive x cs).state := by
  induction cs generalizing x with
  | nil => exact h
  | cons c cs ih =>
    apply ih
    rw [Surface.obey_recorded]
    exact h.obey c

end Terminal

/-- A terminal in the hands of any driver. Every answer is one that the calls before it permit: a
fault as long as no form was presented, after that at most one username, before any secret and only
where there is a field for it, a confirm only right after a secret, and nothing but a cancel once the
rejections have reached the limit. An edit takes one line and a confirm none, and a form that cannot
be presented changes nothing. -/
theorem drive_terminal {ρ ω : Type} [LineReader ρ] [SecretReader ρ] [TextWriter ω] (input : ρ)
    (output : ω) (n : Nat) (hideSecret : Bool) (cs : List Command) :
    let m := max n 1
    let x := Terminal.surface.recorded.drive (.start (.new input output n hideSecret)) cs
    let t := x.state
    let calls : Trace := x.calls
    calls.Orderly m ∧ calls.usernames.length ≤ 1 ∧
    (calls.shown? = none → t.await = (.error .notShown, t)) ∧
    (calls.GivenUp m →
      t.await = (if calls.shown? = none then .error .notShown else .ok .cancel, t)) ∧
    (∀ l e, (t.present l).1 = .error e → ∃ output, (t.present l).2 = { t with output }) ∧
    (∀ u, t.await.1 = .ok (.username u) →
      ∃ line, readLine t.input = (.ok (some line), t.await.2.input)) ∧
    (∀ secret, t.await.1 = .ok (.secret secret) →
      ∃ line, readLine t.input = (.ok (some line), t.await.2.input)) ∧
    (t.await.1 = .ok .confirm → t.await.2.input = t.input) := by
  intro m x t calls
  have hfollows : Terminal.Follows m calls t :=
    Terminal.follows_drive (Terminal.follows_new input output n hideSecret) cs
  refine ⟨hfollows.orderly, hfollows.once, ?_, ?_, ?_, ?_, ?_, Terminal.input_of_confirm⟩
  · exact fun hnone => Terminal.await_unshown (hfollows.layout.trans hnone)
  · intro hgiven
    cases hl : calls.shown? with
    | none => exact Terminal.await_unshown (hfollows.layout.trans hl)
    | some l =>
      exact Terminal.await_cancelled (hfollows.layout.trans hl) (hfollows.givenUp.2 hgiven)
  · intro l e he
    rcases Terminal.present_cases l t with ⟨e', output', heq⟩ | ⟨output', step, heq, -⟩
    · exact ⟨output', by rw [heq]⟩
    · rw [heq] at he
      cases he
  · exact fun u ha => Terminal.readLine_of_edit ha nofun nofun
  · exact fun secret ha => Terminal.readLine_of_edit ha nofun nofun

end GitLogin
