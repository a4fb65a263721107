import GitLogin.Proofs.Answer
import GitLogin.Proofs.Replay
import GitLogin.Session
import GitLogin.Url.Parser

namespace GitLogin

namespace Request

def owner? (q : Request) : Option String :=
  if q.host.map bareHost = some "github.com" then
    q.path.bind fun p =>
      Text.nonEmpty? (.ofList ((p.toList.dropWhile isSlash).takeWhile (· != '/')))
  else none

theorem prior_username (q : Request) : q.prior.bind Credential.username = q.username := by
  rw [prior]
  cases q.username <;> cases q.password <;> rfl

theorem provider_eq_gitHub (q : Request) :
    q.remote.provider = .gitHub ↔ q.host.map bareHost = some "github.com" := by
  have hof (h : Option String) : Provider.ofHost h = .gitHub ↔ h = some "github.com" := by
    rw [Provider.ofHost.eq_def]
    split <;> simp_all
  rw [Remote.provider, hof]
  change Text.nonEmpty? (bareHost (q.host.getD "")) = _ ↔ _
  cases q.host with
  | none => decide
  | some host =>
    rw [Option.getD_some, Option.map_some, Text.nonEmpty?, Option.some.injEq]
    split
    · next hempty => simp_all
    · simp

theorem defaultUsername_remote (q : Request) :
    q.remote.defaultUsername q.prior = (q.username <|> q.owner?) := by
  rw [Remote.defaultUsername, prior_username]
  cases q.username with
  | some u => rfl
  | none =>
    simp only [Ne, provider_eq_gitHub, owner?]
    by_cases hg : q.host.map bareHost = some "github.com"
    · cases hp : q.path with
      | none => simp [hg, remote, rootedPath, hp, Remote.isKey]
      | some p =>
        have hpath : q.rootedPath =
            (Text.nonEmpty? (Text.dropStart isSlash p)).map ("/" ++ ·) := by simp [rootedPath, hp]
        have hslash : '/'.utf8Size = 1 := by decide
        rw [Text.nonEmpty?] at hpath
        split at hpath
        · next hempty =>
          have hdrop : p.toList.dropWhile isSlash = [] := by simpa [Text.dropStart] using hempty
          have hnone : Text.nonEmpty? "" = none := rfl
          simp [hg, remote, hpath, Remote.isKey, hdrop, hnone]
        · simp [hg, remote, hpath, Remote.isKey, hslash]
    · simp [hg]

theorem loginName_remote (q : Request) (typed : Option String) :
    q.remote.loginName q.prior typed =
      Text.nonBlank? ((typed <|> q.username <|> q.owner?).getD "") := by
  rw [← defaultUsername_remote]
  rfl

end Request

namespace Session

variable {σ ω : Type} {S : Surface σ} {input : Source} {settings : Settings} {mode : Mode}
  {opening : Opening σ}

/-- The outcome of the prompt, in a run that gets that far. -/
def outcome? [UrlParser] (S : Surface σ) (input : Source) (settings : Settings) (mode : Mode)
    (opening : Opening σ) : Option Outcome :=
  match Request.read input with
  | .error _ => none
  | .ok q => (promptWith S settings mode q.remote q.prior opening).1.toOption

inductive Ends [TextWriter ω] (w : ω) : Option Outcome → Except Failure Unit → ω → Prop
  | failed (e : Failure) : Ends w none (.error e) w
  | declined : Ends w (some .declined) (.ok ()) w
  | answered {c : Credential} : (c.send w).1 = .ok () →
      Ends w (some (.confirmed c)) (.ok ()) (c.send w).2
  | unanswered {c : Credential} {e : HelperError} : (c.send w).1 = .error e →
      Ends w (some (.confirmed c)) (.error (.writingCredential e)) (c.send w).2

theorem get_ends [UrlParser] [TextWriter ω] (S : Surface σ) (input : Source) (w : ω)
    (settings : Settings) (mode : Mode) (opening : Opening σ) :
    Ends w (outcome? S input settings mode opening) (get S input w settings mode opening).result
      (get S input w settings mode opening).output := by
  rw [get, outcome?]
  cases Request.read input with
  | error e => exact .failed _
  | ok q =>
    simp only
    generalize promptWith S settings mode q.remote q.prior opening = prompted
    obtain ⟨result, s⟩ := prompted
    cases result with
    | error e => exact .failed e
    | ok o =>
      cases o with
      | declined => exact .declined
      | confirmed c =>
        simp only
        split
        · next heq =>
          have hend := Ends.unanswered (congrArg Prod.fst heq)
          rwa [heq] at hend
        · next heq =>
          have hend := Ends.answered (congrArg Prod.fst heq)
          rwa [heq] at hend

section Outcome

variable [UrlParser]

theorem outcome?_eq_some {o : Outcome} (ho : outcome? S input settings mode opening = some o) :
    ∃ q s, Request.read input = .ok q ∧ opening settings = .ok s ∧
      o = (Prompt.run S q.remote q.prior settings s).1 := by
  rw [outcome?] at ho
  cases hq : Request.read input with
  | error e => simp [hq] at ho
  | ok q =>
    rw [hq] at ho
    cases mode with
    | automated => simp [promptWith, Mode.isInteractive, Except.toOption] at ho
    | interactive =>
      cases hs : opening settings with
      | error e => simp [promptWith, Mode.isInteractive, Except.toOption, hs] at ho
      | ok s =>
        refine ⟨q, s, rfl, rfl, ?_⟩
        simpa [promptWith, Mode.isInteractive, Except.toOption, hs, Prompt.ask_interactive,
          eq_comm] using ho

theorem outcome?_of_opened {q : Request} {s : σ} (hq : Request.read input = .ok q)
    (hs : opening settings = .ok s) :
    outcome? S input settings .interactive opening =
      some (Prompt.run S q.remote q.prior settings s).1 := by
  simp [outcome?, promptWith, hq, hs, Mode.isInteractive, Prompt.ask_interactive, Except.toOption]

theorem outcome?_of_acceptsFirst {opening : Opening Script} {q : Request} {s : Script}
    {before : History} {after : List Answer} (hq : Request.read input = .ok q)
    (hs : opening settings = .ok s) (hf : s.presentFault = none)
    (hfirst : Script.AcceptsFirst s.answers before after) :
    outcome? Script.surface input settings .interactive opening =
      some (.confirmed (before.credential q.remote q.prior)) := by
  rw [outcome?_of_opened hq hs, Script.run_of_acceptsFirst hf hfirst]

theorem secret_of_confirmed {c : Credential}
    (ho : outcome? S input settings mode opening = some (.confirmed c)) :
    ∃ t, c.secret = some t ∧ t ≠ "" := by
  obtain ⟨q, s, -, -, hc⟩ := outcome?_eq_some ho
  obtain ⟨h, hs, rfl⟩ := Prompt.run_confirmed hc.symm
  exact hs

end Outcome

inductive Wrote : Option Outcome → Except Failure Unit → List UInt8 → Prop
  | failed (e : Failure) : Wrote none (.error e) []
  | declined : Wrote (some .declined) (.ok ()) []
  | whole {c : Credential} : c.Sendable →
      Wrote (some (.confirmed c)) (.ok ()) (Text.Utf8.encode c.text)
  | badUsername {u : String} {t : Option String} : ¬Sendable u → Wrote
      (some (.confirmed ⟨some u, t⟩)) (.error (.writingCredential (.unsendable .username))) []
  | badSecret {u : Option String} {t : String} : (∀ v ∈ u, Sendable v) → ¬Sendable t → Wrote
      (some (.confirmed ⟨u, some t⟩)) (.error (.writingCredential (.unsendable .password)))
      (Text.Utf8.encode (Part.username.text u))

theorem Ends.wrote {o : Option Outcome} {result : Except Failure Unit} {w : Sink}
    (h : Ends {} o result w) : Wrote o result w.written := by
  cases h with
  | failed e => exact .failed e
  | declined => exact .declined
  | @answered c hc =>
    have hsent := c.sent Sink.reliable_empty
    rw [hc] at hsent
    generalize (c.send ({} : Sink)).2 = w at hsent
    cases hsent with
    | whole hs => exact .whole hs
  | @unanswered c e hc =>
    have hsent := c.sent Sink.reliable_empty
    rw [hc] at hsent
    generalize (c.send ({} : Sink)).2 = w at hsent
    cases hsent with
    | badUsername hu => exact .badUsername hu
    | badSecret hu ht => exact .badSecret hu ht

variable {result : Except Failure Unit} {written : List UInt8}

theorem Wrote.of_sendable {c : Credential} (h : Wrote (some (.confirmed c)) result written)
    (hc : c.Sendable) : result = .ok () ∧ written = Text.Utf8.encode c.text := by
  cases h with
  | whole => exact ⟨rfl, rfl⟩
  | badUsername hu => exact absurd (hc.username _ rfl) hu
  | badSecret _ ht => exact absurd (hc.secret _ rfl) ht

theorem Wrote.of_ok {c : Credential} (h : Wrote (some (.confirmed c)) (.ok ()) written) :
    c.Sendable ∧ written = Text.Utf8.encode c.text := by
  cases h with
  | whole hs => exact ⟨hs, rfl⟩

theorem Wrote.of_unsendable {u t : String}
    (h : Wrote (some (.confirmed ⟨some u, some t⟩)) result written) (hu : Sendable u)
    (ht : ¬Sendable t) : result = .error (.writingCredential (.unsendable .password)) ∧
      written = Text.Utf8.encode ("username=" ++ u ++ "\n") := by
  cases h with
  | whole hs => exact absurd (hs.secret t rfl) ht
  | badUsername hu' => exact absurd hu hu'
  | badSecret => exact ⟨rfl, rfl⟩

theorem Wrote.ne_nil_iff {o : Option Outcome} (h : Wrote o result written)
    (hend : (∃ e, result = .error e) ∨ o = some .declined) : written ≠ [] ↔
      ∃ u t, o = some (.confirmed ⟨some u, some t⟩) ∧ Sendable u ∧ ¬Sendable t := by
  constructor
  · intro hne
    cases h with
    | failed e => contradiction
    | declined => contradiction
    | whole => simp at hend
    | badUsername => contradiction
    | @badSecret u t hu ht =>
      cases u with
      | none => exact absurd rfl hne
      | some u => exact ⟨u, t, rfl, hu u rfl, ht⟩
  · rintro ⟨u, t, rfl, hu, ht⟩
    rw [(h.of_unsendable hu ht).2]
    exact Text.Utf8.encode_line_ne_nil _

end Session

open Session

/-- A run that fails or is declined writes something exactly if the username can be sent and the
secret that was confirmed with it cannot: the line of the username is out by then. -/
theorem get_output [UrlParser] {σ : Type} (S : Surface σ) (input : Source) (settings : Settings)
    (mode : Mode) (opening : Opening σ) :
    let run := get S input ({} : Sink) settings mode opening
    let outcome := outcome? S input settings mode opening
    ((∃ e, run.result = .error e) ∨ outcome = some .declined →
      (run.output.written ≠ [] ↔
        ∃ u t, outcome = some (.confirmed ⟨some u, some t⟩) ∧ Sendable u ∧ ¬Sendable t)) ∧
    (∀ u t, outcome = some (.confirmed ⟨some u, some t⟩) → Sendable u → ¬Sendable t →
      run.result = .error (.writingCredential (.unsendable .password)) ∧
      run.output.written = Text.Utf8.encode ("username=" ++ u ++ "\n")) ∧
    (∀ c, run.result = .ok () → outcome = some (.confirmed c) →
      (∃ t, c.secret = some t ∧ t ≠ "") ∧ run.output.written = Text.Utf8.encode c.text) := by
  intro run outcome
  have hwrote : Wrote outcome run.result run.output.written := (get_ends ..).wrote
  refine ⟨hwrote.ne_nil_iff, ?_, ?_⟩
  · intro u t ho hu ht
    rw [ho] at hwrote
    exact hwrote.of_unsendable hu ht
  · intro c hr ho
    rw [hr, ho] at hwrote
    exact ⟨secret_of_confirmed ho, hwrote.of_ok.2⟩

theorem get_output_torn :
    let input : Source := ⟨[some "host=example.com\n"], false⟩
    let opening : Opening Script := fun _ =>
      .ok { answers := [.ok (.username "bob"), .ok (.secret "a\rb"), .ok .confirm] }
    let run := get Script.surface input ({} : Sink) {} .interactive opening
    run.result = .error (.writingCredential (.unsendable .password)) ∧
      run.output.written = Text.Utf8.encode "username=bob\n" := by
  intro input opening run
  have hq : Request.read input = .ok { host := some "example.com" } := rfl
  have hfirst : Script.AcceptsFirst [.ok (.username "bob"), .ok (.secret "a\rb"), .ok .confirm]
      [.username "bob", .secret "a\rb"] [] :=
    Script.Accepts.acceptsFirst ⟨rfl, by decide, "a\rb", rfl, by decide⟩ (by decide)
  have ho : outcome? Script.surface input {} .interactive opening =
      some (.confirmed ⟨some "bob", some "a\rb"⟩) :=
    Eq.trans (outcome?_of_acceptsFirst hq rfl rfl hfirst) rfl
  have hwrote := (get_ends Script.surface input ({} : Sink) {} .interactive opening).wrote
  rw [ho] at hwrote
  exact hwrote.of_unsendable (by decide) (by decide)

end GitLogin
