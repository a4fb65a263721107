import GitLogin.Proofs.Askpass
import GitLogin.Proofs.TypedLines

namespace GitLogin

def endsAnswer (b : UInt8) : Bool := b == 10 || b == 13 || b == 0

/-- What Git and OpenSSH take of the bytes of an answer. -/
def firstLine (written : List UInt8) : List UInt8 := written.takeWhile (!endsAnswer ·)

namespace Text

def upToUnsendable (s : String) : String := .ofList (s.toList.takeWhile (!isUnsendable ·))

theorem upToUnsendable_eq_self {s : String} : upToUnsendable s = s ↔ Sendable s := by
  rw [upToUnsendable, ← String.toList_inj, String.toList_ofList, List.takeWhile_eq_self_iff,
    Sendable, List.any_eq_false]
  simp

namespace Utf8

theorem any_endsAnswer (c : Char) : (String.utf8EncodeChar c).any endsAnswer = isUnsendable c := by
  have hnewline : (10 : UInt8) ∈ String.utf8EncodeChar c ↔ c = '\n' := newline_mem_encodeChar
  have hreturn : (13 : UInt8) ∈ String.utf8EncodeChar c ↔ c = '\r' := by
    rw [ascii_mem_encodeChar (by decide), ← Char.toNat_inj]
    rfl
  have hnul : (0 : UInt8) ∈ String.utf8EncodeChar c ↔ c = '\x00' := by
    rw [ascii_mem_encodeChar (by decide), ← Char.toNat_inj]
    rfl
  rw [Bool.eq_iff_iff, List.any_eq_true]
  simp only [endsAnswer, isUnsendable, Bool.or_eq_true, beq_iff_eq, and_or_left, exists_or,
    exists_eq_right, hnewline, hreturn, hnul]

theorem firstLine_encode (s : String) : firstLine (encode s) = encode (upToUnsendable s) := by
  rw [firstLine, upToUnsendable, encode, encode, String.toList_ofList]
  induction s.toList with
  | nil => rfl
  | cons c cs ih =>
    cases hc : isUnsendable c with
    | false =>
      have hp : ∀ b ∈ String.utf8EncodeChar c, (!endsAnswer b) = true := by
        intro b hb
        simpa using List.any_eq_false.1 ((any_endsAnswer c).trans hc) b hb
      rw [List.flatMap_cons, List.takeWhile_append_of_pos hp, ih,
        List.takeWhile_cons_of_pos (by simp [hc]), List.flatMap_cons]
    | true =>
      have hone : ∃ b, String.utf8EncodeChar c = [b] ∧ endsAnswer b = true := by
        simp only [isUnsendable, Bool.or_eq_true, beq_iff_eq] at hc
        rcases hc with (rfl | rfl) | rfl <;> exact ⟨_, rfl, rfl⟩
      obtain ⟨b, hb, hends⟩ := hone
      rw [List.flatMap_cons, hb, List.takeWhile_cons_of_neg (by simp [hc])]
      exact List.takeWhile_cons_of_neg (by simp [hends])

theorem firstLine_eq_self {s : String} : firstLine (encode s) = encode s ↔ Sendable s := by
  rw [firstLine_encode, ← upToUnsendable_eq_self]
  constructor
  · intro h
    exact Option.some.inj (by rw [← decode_encode (upToUnsendable s), h, decode_encode])
  · intro h
    rw [h]

end Utf8

end Text

theorem Credential.send_of_username {c : Credential} {t : String} (ht : c.secret = some t)
    (hu : ∀ u, c.username = some u → GitLogin.Sendable u) : (c.send ({} : Sink)).1 =
      if GitLogin.Sendable t then .ok () else .error (.unsendable .password) := by
  have hsent := c.sent Sink.reliable_empty
  generalize (c.send ({} : Sink)).1 = result, (c.send ({} : Sink)).2 = w at hsent
  cases hsent with
  | whole hc => rw [if_pos (hc.secret t ht)]
  | badUsername hbad => exact absurd (hu _ rfl) hbad
  | badSecret _ hbad =>
    cases ht
    rw [if_neg hbad]

open Session

/-- Every secret that is confirmed is written for a question that opens the form, and the run counts
as answered. An answer to Git refuses some of these secrets, for a line break or a NUL in them: it
is of these that only a part is read. -/
theorem askpass_firstLine [UrlParser] {σ : Type} (S : Surface σ) {question : String}
    {settings : Settings} {opening : Opening σ} {s : σ}
    (hq : (Question.parse question).isUsername = false) (hs : opening settings = .ok s) :
    let q := Question.parse question
    let run := askpass S question ({} : Sink) settings .interactive opening
    ∃ o s', Prompt.ask S .interactive q.remote q.prior settings s = .ok (o, s') ∧
      ∀ c, o = .confirmed c → ∃ t, c.secret = some t ∧ t ≠ "" ∧
        run.result = .ok true ∧ run.output.written = Text.Utf8.encode t ∧
        firstLine run.output.written = Text.Utf8.encode (Text.upToUnsendable t) ∧
        (firstLine run.output.written = run.output.written ↔ Sendable t) ∧
        ((∀ u, c.username = some u → Sendable u) → (c.send ({} : Sink)).1 =
          if Sendable t then .ok () else .error (.unsendable .password)) := by
  intro q run
  let result := Prompt.run S q.remote q.prior settings s
  refine ⟨result.1, result.2, rfl, ?_⟩
  intro c hc
  obtain ⟨h, ⟨t, ht, hne⟩, rfl⟩ := Prompt.run_confirmed hc
  have hrun : run = _ := askpass_prompt hq hs
  have hwritten : run.output.written = Text.Utf8.encode t := askpass_confirmed hq hs hc ht
  refine ⟨t, ht, hne, ?_, hwritten, ?_, ?_, Credential.send_of_username ht⟩
  · rw [hrun]
    change Except.ok result.1.isConfirmed = _
    rw [hc]
    rfl
  · rw [hwritten, Text.Utf8.firstLine_encode]
  · rw [hwritten, Text.Utf8.firstLine_eq_self]

theorem askpass_firstLine_terminal :
    let opening : Opening (Terminal Source Sink) := fun s =>
      .ok (.new (.ofString "a\rb\n") {} s.maxAttempts)
    let question := "Enter passphrase for key '/k': "
    let run := askpass Terminal.surface question ({} : Sink) {} .interactive opening
    (Question.parse question).isUsername = false ∧ run.result = .ok true ∧
      run.output.written = Text.Utf8.encode "a\rb" ∧
      firstLine run.output.written = Text.Utf8.encode "a" := by
  -- a carriage return within the line that is typed on a terminal
  intro opening question run
  let q := Question.parse question
  let terminal : Terminal Source Sink := .new (.ofString "a\rb\n") {} 3
  have hq : q.isUsername = false := by decide
  have hs : opening {} = .ok terminal := rfl
  have hfield : (Layout.of q.remote q.prior {}).usernameField = none := by decide
  have hname : q.remote.loginName q.prior none = some "k" := by decide
  have htyped : (Source.ofString "a\rb\n").typed = [some "a\rb"] := by decide
  have hconfirmed : (Prompt.run Terminal.surface q.remote q.prior {} terminal).1 =
      .confirmed ⟨some "k", some "a\rb"⟩ := by
    rw [Terminal.run_confirmed_iff, htyped, ← hname]
    exact ⟨_, _, "a\rb", .unasked _ hfield, ⟨0, [], by decide, by decide, rfl⟩, rfl⟩
  obtain ⟨o, s', hask, hanswer⟩ := askpass_firstLine Terminal.surface hq hs
  rw [Prompt.ask_interactive, Except.ok.injEq] at hask
  rw [show Prompt.run _ _ _ _ _ = (o, s') from hask] at hconfirmed
  obtain ⟨t, ht, -, hresult, hwritten, hfirst, -⟩ := hanswer _ hconfirmed
  cases ht
  exact ⟨hq, hresult, hwritten, hfirst.trans (by decide)⟩

/-- A secret of two lines. -/
theorem askpass_firstLine_newline :
    let opening : Opening Script := fun _ => .ok { answers := [.ok (.secret "a\nb"), .ok .confirm] }
    let run := askpass Script.surface "Password: " ({} : Sink) {} .interactive opening
    (Question.parse "Password: ").isUsername = false ∧ run.result = .ok true ∧
      run.output.written = Text.Utf8.encode "a\nb" ∧
      firstLine run.output.written = Text.Utf8.encode "a" ∧
      (Credential.send ⟨none, some "a\nb"⟩ ({} : Sink)) =
        (.error (.unsendable .password), ({} : Sink)) := by
  intro opening run
  let q := Question.parse "Password: "
  let script : Script := { answers := [.ok (.secret "a\nb"), .ok .confirm] }
  have hfirst : Script.AcceptsFirst script.answers [.secret "a\nb"] [] :=
    Script.Accepts.acceptsFirst ⟨rfl, by decide, "a\nb", rfl, by decide⟩ (by decide)
  have ho : (Prompt.run Script.surface q.remote q.prior {} script).1 = _ :=
    Script.run_of_acceptsFirst rfl hfirst
  have hq : q.isUsername = false := by decide
  have hs : opening {} = .ok script := rfl
  have hrun : run = _ := askpass_prompt hq hs
  have hwritten : run.output.written = Text.Utf8.encode "a\nb" := askpass_confirmed hq hs ho rfl
  refine ⟨hq, ?_, hwritten, ?_, by decide⟩
  · rw [hrun]
    simp only [q, ho]
    rfl
  · rw [hwritten]
    decide

end GitLogin
