import GitLogin.Proofs.Parallel
import GitLogin.Proofs.TypedLines

namespace GitLogin

namespace Text.Utf8

theorem encode_ne_nil {s : String} (hs : s ≠ "") : encode s ≠ [] := by
  obtain ⟨cs, rfl⟩ := s.exists_eq_ofList
  cases cs with
  | nil => contradiction
  | cons c cs =>
    simp [encode, String.utf8EncodeChar_ne_nil]

end Text.Utf8

namespace Sink

def cutTo (n : Nat) (w : Sink) : Sink := { w with written := w.written.take n, limit := some n }

def fits (n : Nat) (w : Sink) : Bool := w.written.length ≤ n

structure Extends (w' w : Sink) : Prop where
  reliable : w'.Reliable
  isPrefix : w.written <+: w'.written

variable {w w' w'' : Sink} {n : Nat} {text : String}

theorem Reliable.extends_refl (hw : w.Reliable) : w.Extends w := ⟨hw, List.prefix_rfl⟩

theorem Extends.trans (h : w''.Extends w') (h' : w'.Extends w) : w''.Extends w :=
  ⟨h.reliable, h'.isPrefix.trans h.isPrefix⟩

theorem Extends.fits (h : w'.Extends w) (hf : w'.fits n) : w.fits n := by
  simp only [Sink.fits, decide_eq_true_eq] at hf ⊢
  exact Nat.le_trans h.isPrefix.length_le hf

theorem Extends.cutTo_eq (h : w'.Extends w) (hw : w.Reliable) (hf : w.fits n = false) :
    w'.cutTo n = w.cutTo n := by
  simp only [Sink.fits, decide_eq_false_iff_not] at hf
  obtain ⟨more, hmore⟩ := h.isPrefix
  have htake : w'.written.take n = w.written.take n := by
    rw [← hmore, List.take_append_of_le_length (by omega)]
  simp only [cutTo, htake, hw.flushFails, h.reliable.flushFails]

theorem Reliable.write_extends (hw : w.Reliable) (text : String) :
    (TextWriter.write text w).2.Extends w := by
  rw [hw.write]
  exact ⟨hw.withWritten _, List.prefix_append _ _⟩

theorem Reliable.send_extends (hw : w.Reliable) (text : String) :
    (TextWriter.send text w).2.Extends w := by
  rw [hw.send]
  exact ⟨hw.withWritten _, List.prefix_append _ _⟩

theorem Reliable.flush_cutTo (hw : w.Reliable) (n : Nat) :
    TextWriter.flush (w.cutTo n) = (.ok (), w.cutTo n) := by
  simp [TextWriter.flush, Sink.flush, cutTo, hw.flushFails]

theorem take_take_append (n : Nat) (xs ys : List UInt8) :
    (xs.take n ++ ys).take n = (xs ++ ys).take n := by
  rw [List.take_append, List.take_append, List.take_take, List.length_take, Nat.min_self]
  congr 2
  omega

theorem Reliable.write_cutTo (hw : w.Reliable) (n : Nat) (ht : text ≠ "") :
    TextWriter.write text (w.cutTo n) =
      (if (TextWriter.write text w).2.fits n then .ok () else .error .pipeClosed,
        (TextWriter.write text w).2.cutTo n) := by
  -- a text that is not empty has bytes, so that it fails on a sink that is full
  have hlen : 0 < (Text.Utf8.encode text).length :=
    List.length_pos_iff.2 (Text.Utf8.encode_ne_nil ht)
  rw [hw.write]
  simp only [TextWriter.write, Sink.write, cutTo, fits, take_take_append, List.length_append,
    List.length_take, decide_eq_true_eq]
  congr 2
  rw [eq_iff_iff]
  omega

theorem Reliable.send_cutTo (hw : w.Reliable) (n : Nat) (ht : text ≠ "") :
    TextWriter.send text (w.cutTo n) =
      (if (TextWriter.send text w).2.fits n then .ok () else .error .pipeClosed,
        (TextWriter.send text w).2.cutTo n) := by
  have hsend : TextWriter.send text w = TextWriter.write text w := by rw [hw.send, hw.write]
  rw [hsend, TextWriter.send, hw.write_cutTo n ht]
  split
  · next heq =>
    obtain ⟨hfst, rfl⟩ := Prod.mk.inj heq
    rw [hfst]
  · next heq =>
    obtain ⟨hfst, rfl⟩ := Prod.mk.inj heq
    rw [hfst, (hw.write_extends text).reliable.flush_cutTo]

end Sink

namespace Terminal

variable {ρ : Type} {t : Terminal ρ Sink} {n : Nat}

def cutTo (n : Nat) (t : Terminal ρ Sink) : Terminal ρ Sink := { t with output := t.output.cutTo n }

/-- An answer beside the one that a terminal gives which takes no more than `n` bytes: they are the
same, or else the question does not fit. A confirm follows only what did fit. -/
inductive Keeps (n : Nat) (whole cut : Except SurfaceFault Event × Terminal ρ Sink) : Prop
  | whole : cut = (whole.1, whole.2.cutTo n) →
      (whole.2.step = .confirm → whole.2.output.fits n) → Keeps n whole cut
  | lost {e : SurfaceFault} : cut.1 = .error e → cut.2.output = whole.2.output.cutTo n →
      whole.2.output.fits n = false → Keeps n whole cut

theorem Keeps.of_ok {whole cut : Except SurfaceFault Event × Terminal ρ Sink} {e : Event}
    (h : Keeps n whole cut) (he : cut.1 = .ok e) :
    whole.1 = .ok e ∧ cut.2 = whole.2.cutTo n ∧
      (whole.2.step = .confirm → whole.2.output.fits n) := by
  cases h with
  | whole heq hc =>
    subst heq
    exact ⟨he, rfl, hc⟩
  | lost hlost => simp [hlost] at he

theorem send_cutTo (hw : t.output.Reliable) (n : Nat) {text : String} (ht : text ≠ "") :
    (t.cutTo n).send text =
      (if (t.send text).2.output.fits n then .ok () else .error (.io .pipeClosed),
        (t.send text).2.cutTo n) := by
  have hsend : t.send text = (.ok (), { t with output := (TextWriter.send text t.output).2 }) := by
    rw [send, hw.send]
  rw [hsend, send, cutTo, hw.send_cutTo n ht]
  cases hf : (TextWriter.send text t.output).2.fits n with
  | true => simp [cutTo]
  | false => simp [cutTo]

theorem reject_cutTo (hw : t.output.Reliable) (n : Nat) :
    (t.cutTo n).reject = t.reject.cutTo n := by
  have hcomplain (complaint : String) (hne : complaint ≠ "") :
      (TextWriter.write (t.secretLabel ++ complaint) (t.output.cutTo n)).2 =
        (TextWriter.write (t.secretLabel ++ complaint) t.output).2.cutTo n := by
    rw [hw.write_cutTo n (by simp [hne])]
  have hlabel : (t.cutTo n).secretLabel = t.secretLabel := rfl
  rw [reject, reject, hlabel]
  by_cases hle : t.maxAttempts ≤ t.rejected + 1
  · simp [cutTo, hle, hcomplain]
  · simp [cutTo, hle, hcomplain]

theorem close_cutTo (hw : t.output.Reliable) (n : Nat) : (t.cutTo n).close = t.close.cutTo n := by
  rw [close, close, cutTo, cutTo, hw.flush_cutTo, hw.flush]

theorem reject_extends (hw : t.output.Reliable) : t.reject.output.Extends t.output := by
  obtain ⟨complaint, heq⟩ := output_reject t
  rw [heq]
  exact hw.write_extends complaint

theorem close_extends (hw : t.output.Reliable) : t.close.output.Extends t.output := by
  rw [close, hw.flush]
  exact hw.extends_refl

theorem step_reject_ne_confirm (t : Terminal ρ Sink) : t.reject.step ≠ .confirm := by
  rw [step_reject]
  split <;> nofun

theorem present_cutTo (hw : t.output.Reliable) (n : Nat) (l : Layout) :
    (t.cutTo n).present l =
      if (t.present l).2.output.fits n then (.ok (), (t.present l).2.cutTo n)
      else (.error (.io .pipeClosed), { t with output := (t.present l).2.output }.cutTo n) := by
  have hne : greeting l ≠ "" := by simp [greeting]
  obtain ⟨output, -, hsend⟩ := send_of_reliable hw (greeting l)
  rw [present, present, send_cutTo hw n hne, hsend]
  simp only
  cases output.fits n with
  | true => rfl
  | false => rfl

structure CutRun (n : Nat) (whole cut : Outcome × Terminal ρ Sink) : Prop where
  output : cut.2.output = whole.2.output.cutTo n
  outcome : cut.1 = if whole.2.output.fits n then whole.1 else .declined

theorem cutRun_close {o : Outcome} (hw : t.output.Reliable)
    (ho : o = .declined ∨ t.output.fits n) : CutRun n (o, t.close) (o, (t.cutTo n).close) := by
  have hclose : t.close.output = t.output := by rw [close, hw.flush]
  refine ⟨by rw [close_cutTo hw]; rfl, ?_⟩
  cases ho with
  | inl ho =>
    subst ho
    split <;> rfl
  | inr hf => rw [hclose, hf, if_pos rfl]

theorem cutRun_lost {t' : Terminal ρ Sink} {whole : Outcome × Terminal ρ Sink}
    (hw : t.output.Reliable) (hwhole : whole.2.output.Extends t.output)
    (hout : t'.output = t.output.cutTo n) (hf : t.output.fits n = false) :
    CutRun n whole (.declined, t'.close) := by
  -- whatever the whole terminal shows after what did not fit is not seen on the other
  constructor
  · rw [hwhole.cutTo_eq hw hf, close, hout, hw.flush_cutTo]
  · rw [if_neg fun hfits => by simp [hwhole.fits hfits] at hf]

variable [LineReader ρ]

theorem readLine_cutTo (n : Nat) (t : Terminal ρ Sink) :
    (t.cutTo n).readLine = (t.readLine.1, t.readLine.2.cutTo n) := by
  simp only [readLine, cutTo]
  generalize LineReader.readLine t.input = line
  obtain ⟨_ | _, input⟩ := line <;> rfl

theorem readSecret_cutTo [SecretReader ρ] (n : Nat) (t : Terminal ρ Sink) :
    (t.cutTo n).readSecret = (t.readSecret.1, t.readSecret.2.cutTo n) := by
  rw [readSecret, readSecret, readLine_cutTo, show (t.cutTo n).hideSecret = t.hideSecret from rfl]
  split
  · simp only [cutTo]
    generalize SecretReader.readSecret t.input = secret
    obtain ⟨_ | _, input⟩ := secret <;> rfl
  · rfl

theorem askUsername_keeps (hw : t.output.Reliable) (n : Nat) (f : UsernameField) :
    Keeps n (t.askUsername f) ((t.cutTo n).askUsername f) := by
  have hne : usernameQuestion f ≠ "" := by
    rw [usernameQuestion]
    split <;> simp
  obtain ⟨output, -, hsend⟩ := send_of_reliable hw (usernameQuestion f)
  rw [askUsername, askUsername, send_cutTo hw n hne, hsend]
  have hout := output_readLine { t with output }
  simp only
  cases hf : output.fits n with
  | true =>
    simp only [if_true, readLine_cutTo]
    generalize readLine { t with output } = line at hout ⊢
    obtain ⟨_ | _ | _, t'⟩ := line <;> exact .whole rfl fun _ => hout ▸ hf
  | false =>
    simp only [Bool.false_eq_true, if_false]
    generalize readLine { t with output } = line at hout ⊢
    obtain ⟨_ | _ | _, t'⟩ := line <;>
      exact .lost rfl (congrArg (Sink.cutTo n) hout.symm) (hout ▸ hf)

variable [SecretReader ρ]

theorem askSecret_keeps (hw : t.output.Reliable) (n : Nat) (label : String) :
    Keeps n (t.askSecret label) ((t.cutTo n).askSecret label) := by
  have hne : label ++ ": " ≠ "" := by simp
  obtain ⟨output, -, hsend⟩ := send_of_reliable hw (label ++ ": ")
  rw [askSecret, askSecret, send_cutTo hw n hne, hsend]
  have hout := output_readSecret { t with output }
  simp only
  cases hf : output.fits n with
  | true =>
    simp only [if_true, readSecret_cutTo]
    generalize readSecret { t with output } = secret at hout ⊢
    obtain ⟨_ | _ | _, t'⟩ := secret <;> exact .whole rfl fun _ => hout ▸ hf
  | false =>
    simp only [Bool.false_eq_true, if_false]
    generalize readSecret { t with output } = secret at hout ⊢
    obtain ⟨_ | _ | _, t'⟩ := secret <;>
      exact .lost rfl (congrArg (Sink.cutTo n) hout.symm) (hout ▸ hf)

theorem await_keeps (hw : t.output.Reliable) (hc : t.step = .confirm → t.output.fits n) :
    Keeps n t.await (t.cutTo n).await := by
  have hlayout : (t.cutTo n).layout = t.layout := rfl
  have hstep : (t.cutTo n).step = t.step := rfl
  rw [await, await, hlayout, hstep]
  split
  · exact .whole rfl hc
  · split
    · exact askUsername_keeps hw n _
    · exact askSecret_keeps hw n _
    · exact askSecret_keeps hw n _
    · exact .whole rfl (by simp)
    · exact .whole rfl hc

theorem await_extends (hw : t.output.Reliable) : t.await.2.output.Extends t.output := by
  rcases output_await t with heq | ⟨question, heq⟩
  · rw [heq]
    exact hw.extends_refl
  · rw [heq]
    exact hw.send_extends question

variable {r : Remote} {settings : Settings} {f : Fields} {g : Gate}

theorem follow_extends (hw : t.output.Reliable) :
    (Prompt.follow surface r settings f g t).2.output.Extends t.await.2.output := by
  fun_induction Prompt.follow surface r settings f g t with
  | case1 f g t e ha => exact close_extends (reliable_await hw)
  | case2 f g t ha => exact close_extends (reliable_await hw)
  | case3 f g t u ha ih =>
    have hw := reliable_await hw
    exact (ih hw).trans (await_extends hw)
  | case4 f g t x ha ih =>
    have hw := reliable_await hw
    rw [showGate_surface] at ih ⊢
    exact (ih hw).trans (await_extends hw)
  | case5 f g t ha hopen => exact close_extends (reliable_await hw)
  | case6 f g t ha hshut ih =>
    have hw := reliable_await hw
    have hreject := reject_extends hw
    exact ((ih hreject.reliable).trans (await_extends hreject.reliable)).trans hreject

theorem await_of_confirmed (ha : t.await.1 = .ok .confirm) :
    t.step = .confirm ∧ t.await.2.output = t.output := by
  obtain ⟨hstep, -⟩ := movedTo_of_confirm ha
  refine ⟨hstep, ?_⟩
  rw [await]
  split
  · rfl
  · simp only [hstep]

theorem follow_cutTo (hw : t.output.Reliable) (hc : t.step = .confirm → t.output.fits n) :
    CutRun n (Prompt.follow surface r settings f g t)
      (Prompt.follow surface r settings f g (t.cutTo n)) := by
  -- a question that does not fit is lost on the cut terminal alone, and its prompt is over there
  generalize ht : t.cutTo n = t'
  fun_induction Prompt.follow surface r settings f g t' generalizing t with
  | case1 f g t' e ha =>
    subst ht
    cases await_keeps hw hc with
    | whole heq hc =>
      have hfst : t.await.1 = .error e := by
        rw [← ha]
        exact (congrArg Prod.fst heq).symm
      have hsnd : (surface.await (t.cutTo n)).2 = t.await.2.cutTo n := congrArg Prod.snd heq
      rw [Prompt.follow_of_error (S := surface) hfst, hsnd]
      exact cutRun_close (reliable_await hw) (.inl rfl)
    | lost he hout hf =>
      exact cutRun_lost (reliable_await hw) (follow_extends hw) hout hf
  | case2 f g t' ha =>
    subst ht
    obtain ⟨ha, heq, -⟩ := (await_keeps hw hc).of_ok ha
    rw [Prompt.follow_of_cancel (S := surface) ha, show (surface.await (t.cutTo n)).2 = _ from heq]
    exact cutRun_close (reliable_await hw) (.inl rfl)
  | case3 f g t' u ha ih =>
    subst ht
    obtain ⟨ha, heq, hc⟩ := (await_keeps hw hc).of_ok ha
    rw [Prompt.follow_of_username (S := surface) ha]
    exact ih (reliable_await hw) hc heq.symm
  | case4 f g t' x ha ih =>
    subst ht
    obtain ⟨ha, heq, hc⟩ := (await_keeps hw hc).of_ok ha
    rw [Prompt.follow_of_secret (S := surface) ha, showGate_surface]
    apply ih (reliable_await hw) hc
    rw [showGate_surface]
    exact heq.symm
  | case5 f g t' ha hopen =>
    subst ht
    obtain ⟨ha, heq, -⟩ := (await_keeps hw hc).of_ok ha
    obtain ⟨hstep, hout⟩ := await_of_confirmed ha
    rw [Prompt.follow_of_confirm (S := surface) ha, if_pos hopen,
      show (surface.await (t.cutTo n)).2 = _ from heq]
    exact cutRun_close (reliable_await hw) (.inr (hout ▸ hc hstep))
  | case6 f g t' ha hshut ih =>
    subst ht
    obtain ⟨ha, heq, -⟩ := (await_keeps hw hc).of_ok ha
    have hw := reliable_await hw
    rw [Prompt.follow_of_confirm (S := surface) ha, if_neg hshut]
    apply ih (reliable_reject hw) (fun hstep => absurd hstep (step_reject_ne_confirm _))
    rw [show (surface.await (t.cutTo n)).2 = _ from heq]
    exact (reject_cutTo hw n).symm

theorem run_cutTo (hw : t.output.Reliable) (n : Nat) (r : Remote) (prior : Option Credential)
    (settings : Settings) :
    CutRun n (Prompt.run surface r prior settings t)
      (Prompt.run surface r prior settings (t.cutTo n)) := by
  let l := Layout.of r prior settings
  have hcut : surface.present l (t.cutTo n) = _ := present_cutTo hw n l
  obtain ⟨output, ho, hpresent⟩ := present_of_reliable hw l
  have hwhole : surface.present l t = _ := hpresent
  rw [hpresent] at hcut
  rw [Prompt.run_of_presented (congrArg Prod.fst hwhole), hwhole]
  cases hf : output.fits n with
  | true =>
    simp only [hf, if_true] at hcut
    rw [Prompt.run_of_presented (congrArg Prod.fst hcut), hcut]
    apply follow_cutTo ho
    intro hstep
    exact hf
  | false =>
    simp only [hf, Bool.false_eq_true, if_false] at hcut
    rw [Prompt.run_of_fault (congrArg Prod.fst hcut), hcut]
    exact cutRun_lost ho ((follow_extends ho).trans (await_extends ho)) rfl hf

end Terminal

/-- A terminal that takes no more than `n` bytes shows the first `n` of those that a whole one
shows. The prompt is the same if that is all of them, and else is declined. -/
theorem ask_brokenScreen {ρ : Type} [LineReader ρ] [SecretReader ρ] (r : Remote)
    (prior : Option Credential) (settings : Settings) (input : ρ) (hideSecret : Bool) (n : Nat) :
    ∃ o t o' t',
      Prompt.ask Terminal.surface .interactive r prior settings
        (.new input ({} : Sink) settings.maxAttempts hideSecret) = .ok (o, t) ∧
      Prompt.ask Terminal.surface .interactive r prior settings
        (.new input ({ limit := some n } : Sink) settings.maxAttempts hideSecret) = .ok (o', t') ∧
      t'.output.written = t.output.written.take n ∧
      o' = if t.output.written.length ≤ n then o else .declined := by
  let t₀ : Terminal ρ Sink := .new input {} settings.maxAttempts hideSecret
  have hcut : Terminal.new input ({ limit := some n } : Sink) settings.maxAttempts hideSecret =
      t₀.cutTo n := by
    simp [t₀, Terminal.new, Terminal.cutTo, Sink.cutTo]
  have hrun := Terminal.run_cutTo (t := t₀) Sink.reliable_empty n r prior settings
  rw [hcut, Prompt.ask_interactive, Prompt.ask_interactive]
  generalize Prompt.run Terminal.surface r prior settings t₀ = whole at hrun ⊢
  generalize Prompt.run Terminal.surface r prior settings (t₀.cutTo n) = cut at hrun ⊢
  refine ⟨whole.1, whole.2, cut.1, cut.2, rfl, rfl, congrArg Sink.written hrun.output, ?_⟩
  rw [hrun.outcome, Sink.fits]
  simp only [decide_eq_true_eq]

end GitLogin
