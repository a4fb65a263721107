import GitLogin.Proofs.Attributes
import GitLogin.Proofs.Get
import GitLogin.Proofs.HostText
import GitLogin.Proofs.Words
import Mathlib.Data.List.DropRight

namespace GitLogin

namespace Text

theorem cut?_of_mem {c : Char} {s : String} (h : c ∈ s.toList) :
    ∃ after, cut? c s = some (.ofList (s.toList.takeWhile (· != c)), after) := by
  rw [cut?]
  split
  · next heq =>
    have hne := List.dropWhile_eq_nil_iff.1 heq c h
    simp at hne
  · exact ⟨_, rfl⟩

theorem nonEmpty?_ne_empty (s : String) : nonEmpty? s ≠ some "" := by
  rw [nonEmpty?]
  split <;> simp_all

end Text

namespace Url

/-- The login name that a URL tells: its own, or on GitHub the first segment of its path, of which
slashes in front are no part. -/
def login? (u : Url) : Option String :=
  let owner := String.ofList ((u.path.toList.dropWhile (· = '/')).takeWhile (· ≠ '/'))
  if u.username ≠ "" then some u.username
  else if u.host = some "github.com" ∧ owner ≠ "" then some owner
  else none

def loginOf? [UrlParser] (text : String) : Option String :=
  (UrlParser.parse text).toOption.bind login?

end Url

namespace Request

variable {u : Url}

theorem owner?_applyUrl (hu : ∀ host ∈ u.host, Url.HostText host) :
    (applyUrl {} u).owner? = if u.host = some "github.com" then
      Text.nonEmpty? (.ofList ((u.path.toList.dropWhile isSlash).takeWhile (· != '/')))
    else none := by
  have hhost : (applyUrl {} u).host = hostAndPort u := by simp [applyUrl]
  have hpath : (applyUrl {} u).path = Text.nonEmpty? (Text.dropStart isSlash u.path) := by
    simp [applyUrl]
  have hiff : (hostAndPort u).map bareHost = some "github.com" ↔ u.host = some "github.com" :=
    Url.bareHost_hostAndPort_iff hu (by decide) (by decide)
  rw [owner?, hhost, hpath]
  by_cases hg : u.host = some "github.com"
  · rw [if_pos hg, if_pos (hiff.2 hg), Text.nonEmpty?]
    split
    · next hempty =>
      have hdrop : u.path.toList.dropWhile isSlash = [] := by
        simpa [Text.dropStart] using hempty
      rw [hdrop]
      rfl
    · simp only [Option.bind_some, Text.toList_dropStart, List.dropWhile_idempotent]
  · rw [if_neg hg, if_neg (mt hiff.1 hg)]

theorem owner?_ne_empty (q : Request) : q.owner? ≠ some "" := by
  rw [owner?]
  split
  · cases q.path with
    | none => simp
    | some p => exact Text.nonEmpty?_ne_empty _
  · simp

theorem username_applyUrl (hu : ∀ host ∈ u.host, Url.HostText host) :
    ((applyUrl {} u).username <|> (applyUrl {} u).owner?) = u.login? := by
  have husername : (applyUrl {} u).username = Text.nonEmpty? u.username := by simp [applyUrl]
  have hslash : isSlash = fun c => decide (c = '/') := rfl
  have hother : (fun c : Char => c != '/') = fun c => decide (c ≠ '/') := by
    funext c
    by_cases hc : c = '/' <;> simp [hc]
  rw [husername, owner?_applyUrl hu, Url.login?, hslash, hother]
  generalize String.ofList _ = owner
  simp only [Text.nonEmpty?]
  by_cases hname : u.username = "" <;> by_cases hg : u.host = some "github.com" <;>
    by_cases howner : owner = "" <;> simp [hname, hg, howner]

end Request

namespace Question

section Known

variable [UrlParser]

theorem knownUsername_username (text : String) :
    (username text).knownUsername = (UrlParser.parse text).toOption.bind fun u =>
      (Request.applyUrl {} u).username <|> (Request.applyUrl {} u).owner? := by
  change (username text).remote.defaultUsername (username text).prior = _
  rw [remote.eq_def, prior.eq_def]
  cases hu : UrlParser.parse text with
  | error e =>
    simp only [Request.ofUrl_error hu]
    rfl
  | ok u =>
    let r : Request := .applyUrl {} u
    have hprior : (r.username.map fun name => ({ username := some name } : Credential)).bind
        Credential.username = r.prior.bind Credential.username := by
      rw [Request.prior_username]
      cases r.username <;> rfl
    simp only [Request.ofUrl_ok hu]
    change r.remote.defaultUsername (r.username.map fun name => { username := some name }) =
      (r.username <|> r.owner?)
    rw [Remote.defaultUsername, hprior, ← Remote.defaultUsername, Request.defaultUsername_remote]

theorem knownUsername_ne_empty (text : String) : (username text).knownUsername ≠ some "" := by
  rw [knownUsername_username]
  cases UrlParser.parse text with
  | error e => nofun
  | ok u =>
    have husername : (Request.applyUrl {} u).username = Text.nonEmpty? u.username := by
      simp [Request.applyUrl]
    change ((Request.applyUrl {} u).username <|> (Request.applyUrl {} u).owner?) ≠ some ""
    rw [husername]
    cases hname : Text.nonEmpty? u.username with
    | none => exact Request.owner?_ne_empty _
    | some name =>
      have hne := Text.nonEmpty?_ne_empty u.username
      rwa [hname] at hne

theorem knownUsername_eq (hosts : Url.TellsHosts) (text : String) :
    (username text).knownUsername = Url.loginOf? text := by
  rw [knownUsername_username, Url.loginOf?]
  cases hu : UrlParser.parse text with
  | error e => rfl
  | ok u => exact Request.username_applyUrl (hosts text u hu)

end Known

def upToQuote (text : String) : String := .ofList (text.toList.takeWhile (· != '\''))

theorem quoted?_append {before : String} (hbefore : '\'' ∉ before.toList) (text rest : String) :
    quoted? (before ++ "'" ++ (text ++ "'" ++ rest)) = Text.nonEmpty? (upToQuote text) := by
  have hopen : Text.cut? '\'' (before ++ "'" ++ (text ++ "'" ++ rest)) =
      some (before, text ++ "'" ++ rest) := Text.cut?_append hbefore _
  have hmem : '\'' ∈ (text ++ "'" ++ rest).toList := by simp
  obtain ⟨after, hclose⟩ := Text.cut?_of_mem hmem
  have hquoted : (text ++ "'" ++ rest).toList.takeWhile (· != '\'') =
      text.toList.takeWhile (· != '\'') := by
    rw [String.append_assoc, String.toList_append, List.takeWhile_append]
    split
    · next hlen =>
      rw [(List.takeWhile_prefix _).eq_of_length hlen]
      simp
    · rfl
  rw [hquoted] at hclose
  simp only [quoted?, hopen, hclose, Option.bind_eq_bind, Option.bind_some]
  rfl

/-- What Git asks when it needs a username, with a description of what for if it has one. -/
def usernameText : Option String → String
  | none => "Username: "
  | some description => "Username for '" ++ description ++ "': "

def object? (description : Option String) : Option String :=
  description.bind fun text => Text.nonEmpty? (upToQuote text)

theorem parse_usernameText (description : Option String) :
    parse (usernameText description) = match object? description with
      | some text => .username text
      | none => .unknown (trimQuestion (usernameText description)) := by
  cases description with
  | none => rfl
  | some text =>
    have hwords : usernameText (some text) = "Username for '" ++ text ++ "': " := rfl
    have hstart : startsWith usernameStart (usernameText (some text)) = true := by
      rw [startsWith, hwords]
      simp [usernameStart]
    have hquoted : quoted? (usernameText (some text)) = Text.nonEmpty? (upToQuote text) := by
      have hbefore : '\'' ∉ "Username for ".toList := by decide
      have htext : usernameText (some text) = "Username for " ++ "'" ++ (text ++ "'" ++ ": ") := by
        simp [hwords, String.append_assoc]
      rw [htext]
      exact quoted?_append hbefore text ": "
    rw [parse, known?, if_pos hstart, hquoted, object?, Option.bind_some]
    cases Text.nonEmpty? (upToQuote text) <;> rfl

end Question

namespace Session

variable {σ : Type} {S : Surface σ} {question text : String} {settings : Settings} {mode : Mode}
  {opening : Opening σ}

theorem answered_empty (text : String) (s : Option σ) :
    answered text ({} : Sink) s = ⟨.ok true, { written := Text.Utf8.encode text }, s⟩ := by
  rw [answered, answer, Sink.reliable_empty.write]
  simp only [(Sink.reliable_empty.withWritten _).flush]
  rfl

variable [UrlParser]

theorem askpass_username (hq : Question.parse question = .username text) :
    let known := (Question.username text).knownUsername
    askpass S question ({} : Sink) settings mode opening =
      ⟨.ok known.isSome, { written := Text.Utf8.encode (known.getD "") }, none⟩ := by
  intro known
  rw [askpass, hq]
  simp only [Question.isUsername, if_true]
  change (match known with | none => _ | some username => answered username _ _) = _
  cases known with
  | none => rfl
  | some name => exact answered_empty name none

theorem askpass_automated (hq : (Question.parse question).isUsername = false) :
    askpass S question ({} : Sink) settings .automated opening =
      ⟨.error (.promptingDisabled (Question.parse question).remote.uri .automated), {}, none⟩ := by
  rw [askpass, hq]
  rfl

theorem askpass_unopened {e : SurfaceFault} (hq : (Question.parse question).isUsername = false)
    (hs : opening settings = .error e) :
    askpass S question ({} : Sink) settings .interactive opening =
      ⟨.error (.openingSurface e), {}, none⟩ := by
  simp only [askpass, hq, promptWith, hs]
  rfl

theorem askpass_prompt {s : σ} (hq : (Question.parse question).isUsername = false)
    (hs : opening settings = .ok s) :
    let q := Question.parse question
    let result := Prompt.run S q.remote q.prior settings s
    askpass S question ({} : Sink) settings .interactive opening =
      ⟨.ok result.1.isConfirmed,
        { written := Text.Utf8.encode ((result.1.credential?.bind Credential.secret).getD "") },
        some result.2⟩ := by
  intro q result
  have hprompt : promptWith S settings .interactive q.remote q.prior opening =
      (.ok result.1, some result.2) := by
    rw [promptWith, hs]
    rfl
  rw [askpass, hq]
  simp only [Bool.false_eq_true, if_false, q, hprompt]
  generalize result.1 = o
  cases o with
  | declined => rfl
  | confirmed c => exact answered_empty _ _

theorem isSome_surface_askpass (hq : (Question.parse question).isUsername = false) :
    (askpass S question ({} : Sink) settings mode opening).surface.isSome ↔
      mode = .interactive ∧ ∃ s, opening settings = .ok s := by
  cases mode with
  | automated =>
    rw [askpass_automated hq]
    simp
  | interactive =>
    cases hs : opening settings with
    | error e =>
      rw [askpass_unopened hq hs]
      simp
    | ok s =>
      rw [askpass_prompt hq hs]
      simp

section Written

variable {s : σ} {c : Credential} {t : String}
  (hq : (Question.parse question).isUsername = false) (hs : opening settings = .ok s)
include hq hs

theorem askpass_declined (ho : (Prompt.run S (Question.parse question).remote
      (Question.parse question).prior settings s).1 = .declined) :
    (askpass S question ({} : Sink) settings .interactive opening).output.written = [] := by
  rw [askpass_prompt hq hs]
  simp only [ho]
  rfl

theorem askpass_confirmed (hc : (Prompt.run S (Question.parse question).remote
      (Question.parse question).prior settings s).1 = .confirmed c) (ht : c.secret = some t) :
    (askpass S question ({} : Sink) settings .interactive opening).output.written =
      Text.Utf8.encode t := by
  rw [askpass_prompt hq hs]
  simp only [hc, Outcome.credential?, Option.bind_some, ht, Option.getD_some]

end Written

end Session

open Session

/-- A question for a username is answered from its URL alone, or not at all. Any other is answered
by the secret that was typed last before the accepted confirm, and by nothing if there is none. -/
theorem askpass_script [UrlParser] (question : String) (settings : Settings) (mode : Mode)
    (opening : Opening Script) :
    let q := Question.parse question
    let run := askpass Script.surface question ({} : Sink) settings mode opening
    (∀ text, q = .username text →
      let known := (Question.username text).knownUsername
      known ≠ some "" ∧ (Url.TellsHosts → known = Url.loginOf? text) ∧
        run = ⟨.ok known.isSome, { written := Text.Utf8.encode (known.getD "") }, none⟩) ∧
    (q.isUsername = false → mode = .automated →
      run = ⟨.error (.promptingDisabled q.remote.uri .automated), {}, none⟩) ∧
    (q.isUsername = false → mode = .interactive → ∀ s, opening settings = .ok s →
      ∃ o s', Prompt.ask Script.surface .interactive q.remote q.prior settings s = .ok (o, s') ∧
        run.surface = some s' ∧ run.result = .ok o.isConfirmed ∧
        (o = .declined → run.output.written = []) ∧
        (o ≠ .declined → ∃ before after t, Script.AcceptsFirst s.answers before after ∧
          s'.answers = after ∧ before.secret? = some t ∧ t ≠ "" ∧
          run.output.written = Text.Utf8.encode t)) := by
  intro q run
  refine ⟨?_, ?_, ?_⟩
  · intro text hq
    exact ⟨Question.knownUsername_ne_empty text, fun hosts => Question.knownUsername_eq hosts text,
      askpass_username hq⟩
  · rintro hq rfl
    exact askpass_automated hq
  · rintro hq rfl s hs
    let result := Prompt.run Script.surface q.remote q.prior settings s
    have hrun : run = _ := askpass_prompt hq hs
    refine ⟨result.1, result.2, rfl, by rw [hrun], by rw [hrun], askpass_declined hq hs, ?_⟩
    intro hne
    rcases Script.run_surface q.remote q.prior settings s with
      ⟨before, after, -, hfirst, ho, hafter⟩ | ⟨-, ho⟩
    · obtain ⟨t, ht, htne⟩ := hfirst.hasSecret
      exact ⟨before, after, t, hfirst, hafter, ht, htne, askpass_confirmed hq hs ho ht⟩
    · exact absurd ho hne

theorem askpass_script_owner :
    let url := "ssh://github.com/octocat/x"
    let question := Question.usernameText (some url)
    let run := askpass Script.surface question ({} : Sink) {} .automated fun _ => .error .notShown
    Question.parse question = .username url ∧
      run = ⟨.ok true, { written := Text.Utf8.encode "octocat" }, none⟩ := by
  -- the owner of a repository is taken for the username, even where nobody is there
  intro url question run
  have hobject : Question.object? (some url) = some url := by decide
  have hq : Question.parse question = .username url := by
    rw [Question.parse_usernameText, hobject]
  have hu : UrlParser.parse url =
      .ok { scheme := "ssh", host := some "github.com", path := "/octocat/x" } := by decide
  have hlogin : Url.loginOf? url = some "octocat" := by
    rw [Url.loginOf?, hu]
    decide
  obtain ⟨hanswer, -, -⟩ := askpass_script question {} .automated fun _ => .error .notShown
  obtain ⟨-, hknown, hrun⟩ := hanswer url hq
  rw [hknown Url.tellsHosts, hlogin] at hrun
  exact ⟨hq, hrun⟩

/-- The form is opened for a question for a username exactly if nothing stands in quotes in it, or
the first quoted text is empty. Then the answer is a secret. -/
theorem askpass_usernameText [UrlParser] {σ : Type} (S : Surface σ) (description : Option String)
    (settings : Settings) (mode : Mode) (opening : Opening σ) :
    let question := Question.usernameText description
    let run := askpass S question ({} : Sink) settings mode opening
    (∀ text, Question.object? description = some text →
      let known := (Question.username text).knownUsername
      known ≠ some "" ∧ (Url.TellsHosts → known = Url.loginOf? text) ∧
        run = ⟨.ok known.isSome, { written := Text.Utf8.encode (known.getD "") }, none⟩) ∧
    (Question.object? description = none →
      (run.surface.isSome ↔ mode = .interactive ∧ ∃ s, opening settings = .ok s) ∧
      (mode = .interactive → ∀ s, opening settings = .ok s →
        ∃ o s', Prompt.ask S .interactive (Question.parse question).remote none settings s =
            .ok (o, s') ∧
          run.result = .ok o.isConfirmed ∧
          ∀ c, o = .confirmed c →
            ∃ t, c.secret = some t ∧ t ≠ "" ∧ run.output.written = Text.Utf8.encode t)) := by
  intro question run
  have hparse := Question.parse_usernameText description
  refine ⟨?_, ?_⟩
  · intro text hobject
    rw [hobject] at hparse
    exact ⟨Question.knownUsername_ne_empty text, fun hosts => Question.knownUsername_eq hosts text,
      askpass_username hparse⟩
  · intro hobject
    rw [hobject] at hparse
    have hq : (Question.parse question).isUsername = false := by
      rw [show Question.parse question = _ from hparse]
      rfl
    have hprior : (Question.parse question).prior = none := by
      rw [show Question.parse question = _ from hparse]
      rfl
    refine ⟨isSome_surface_askpass hq, ?_⟩
    rintro rfl s hs
    let q := Question.parse question
    let result := Prompt.run S q.remote q.prior settings s
    have hrun : run = _ := askpass_prompt hq hs
    rw [← hprior]
    refine ⟨result.1, result.2, rfl, by rw [hrun], ?_⟩
    intro c hc
    obtain ⟨h, ⟨t, ht, hne⟩, rfl⟩ := Prompt.run_confirmed hc
    exact ⟨t, ht, hne, askpass_confirmed hq hs hc ht⟩

/-- A secret that is typed for a username comes out as the username. -/
theorem askpass_usernameText_secret :
    let opening : Opening Script := fun _ =>
      .ok { answers := [.ok (.secret "hunter2"), .ok .confirm] }
    let question := Question.usernameText none
    let run := askpass Script.surface question ({} : Sink) {} .interactive opening
    run.surface.isSome ∧ run.result = .ok true ∧
      run.output.written = Text.Utf8.encode "hunter2" := by
  intro opening question run
  let q := Question.parse question
  let script : Script := { answers := [.ok (.secret "hunter2"), .ok .confirm] }
  have hfirst : Script.AcceptsFirst script.answers [.secret "hunter2"] [] :=
    Script.Accepts.acceptsFirst ⟨rfl, by decide, "hunter2", rfl, by decide⟩ (by decide)
  have ho : (Prompt.run Script.surface q.remote q.prior {} script).1 = _ :=
    Script.run_of_acceptsFirst rfl hfirst
  have hq : q.isUsername = false :=
    congrArg Question.isUsername (Question.parse_usernameText none)
  have hs : opening {} = .ok script := rfl
  have hrun : run = _ := askpass_prompt hq hs
  refine ⟨by rw [hrun]; rfl, ?_, askpass_confirmed hq hs ho rfl⟩
  rw [hrun]
  simp only [q, ho]
  rfl

end GitLogin
